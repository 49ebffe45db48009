import FolderSync.Proofs.Disk.Direct
import FolderSync.Proofs.Lookup
import FolderSync.Proofs.Volume

/-!
# Changing a directory safely

How a directory is brought up to date, change by change.  A `Progress` is the disk with the staging
file on its way and a log of what has been promoted; `Advance dir` lists the changes that are made,
and `Advances dir` their sequences.

* `Progress.Since dir start`: what is known of the disk at any moment after `start`.  Only three
  things differ: missing directories on the way to `dir` may have come about, the staging file
  exists, and promoted names hold what was promoted.
* `Advances.since`: this is kept by every sequence of changes.
* `Advances.of_createFile`: every file that is made is a staging file under `dir`, where nothing
  stood.
-/

namespace FolderSync

/-- A disk in the course of a synchronization: the staging file on its way, and the names that have
been promoted with their contents, latest first. -/
structure Progress where
  disk : Disk
  inFlight : Option Location := none
  promoted : List (String × Bytes) := []

/-- Where an artifact stands in a directory. -/
def Location.entry (dir : Location) (name : String) : Location := dir ++ [utf8 name]

/-- One change on the way to an up-to-date directory `dir`. -/
inductive Advance (dir : Location) : Progress → Change → Progress → Prop
  | makeDirectory {p : Progress} {front : Location} {name : Name}
      (idle : p.inFlight = none) (path : front ++ [name] <+: dir) (valid : name.Valid)
      (parent : p.disk.find? front = some .directory)
      (fresh : p.disk.find? (front ++ [name]) = none) :
      Advance dir p (.makeDirectory (front ++ [name]))
        { p with disk := Change.apply p.disk (.makeDirectory (front ++ [name])) }
  | createFile {p : Progress} {name : String} {token : Token}
      (idle : p.inFlight = none) (plain : nameFault? name = none)
      (short : (utf8 (stagingName name token)).length ≤ nameLimit)
      (parent : p.disk.find? dir = some .directory)
      (fresh : p.disk.find? (dir.entry (stagingName name token)) = none) :
      Advance dir p (.createFile (dir.entry (stagingName name token)))
        { p with disk := Change.apply p.disk (.createFile (dir.entry (stagingName name token)))
                 inFlight := some (dir.entry (stagingName name token)) }
  | append {p : Progress} {loc : Location} {bytes : Bytes} (flight : p.inFlight = some loc) :
      Advance dir p (.append loc bytes)
        { p with disk := Change.apply p.disk (.append loc bytes) }
  | promote {p : Progress} {loc : Location} {name : String} {bytes : Bytes}
      (flight : p.inFlight = some loc) (plain : nameFault? name = none)
      (short : (utf8 name).length ≤ nameLimit)
      (content : p.disk.find? loc = some (.file { bytes }))
      (free : p.disk.find? (dir.entry name) ≠ some .directory) :
      Advance dir p (.rename loc (dir.entry name))
        { disk := Change.apply p.disk (.rename loc (dir.entry name))
          inFlight := none
          promoted := (name, bytes) :: p.promoted }
  | remove {p : Progress} {loc : Location} (flight : p.inFlight = some loc) :
      Advance dir p (.remove loc)
        { p with disk := Change.apply p.disk (.remove loc), inFlight := none }

/-- A sequence of changes on the way to an up-to-date directory. -/
inductive Advances (dir : Location) : Progress → List Change → Progress → Prop
  | nil (p : Progress) : Advances dir p [] p
  | cons {p q r : Progress} {c : Change} {cs : List Change} (head : Advance dir p c q)
      (tail : Advances dir q cs r) : Advances dir p (c :: cs) r

namespace Advances

variable {dir : Location} {p q r : Progress} {c : Change} {cs ds : List Change}

theorem single (h : Advance dir p c q) : Advances dir p [c] q := .cons h (.nil q)

theorem append (h : Advances dir p cs q) (g : Advances dir q ds r) :
    Advances dir p (cs ++ ds) r := by
  induction h with
  | nil => exact g
  | cons head _ ih => exact .cons head (ih g)

/-- What was begun can be stopped after any of its changes. -/
theorem of_append (h : Advances dir p (cs ++ ds) r) :
    ∃ q, Advances dir p cs q ∧ Advances dir q ds r := by
  induction cs generalizing p with
  | nil => exact ⟨p, .nil p, h⟩
  | cons c cs ih =>
    cases h with
    | cons head tail =>
      obtain ⟨q, h1, h2⟩ := ih tail
      exact ⟨q, .cons head h1, h2⟩

theorem replay (h : Advances dir p cs q) : p.disk.replay cs = q.disk := by
  induction h with
  | nil => rfl
  | cons head _ ih =>
    rw [← ih]
    cases head <;> rfl

end Advances

/-! ### What is known at every moment -/

section Since

variable {dir : Location} {start : Disk} {p q : Progress}

/-- At a location the disk is as it was, but a missing directory on the way to `dir` may have come
about. -/
def KeptAt (dir : Location) (start now : Disk) (loc : Location) : Prop :=
  now.find? loc = start.find? loc ∨
    (loc <+: dir ∧ start.find? loc = none ∧ now.find? loc = some .directory)

/-- What is known of the disk at a moment after `start`. -/
structure Progress.Since (dir : Location) (start : Disk) (p : Progress) : Prop where
  wellFormed : p.disk.WellFormed
  here : p.disk.here = start.here
  closed : p.disk.closed = start.closed
  kept : ∀ loc, p.inFlight ≠ some loc → (∀ x ∈ p.promoted, loc ≠ dir.entry x.1) →
    KeptAt dir start p.disk loc
  promoted : ∀ name bytes, p.promoted.lookup name = some bytes →
    p.disk.find? (dir.entry name) = some (.file { bytes })
  plain : ∀ x ∈ p.promoted, nameFault? x.1 = none
  inFlight : ∀ loc, p.inFlight = some loc → start.find? loc = none ∧
    (∃ name, loc = dir ++ [name] ∧ name.IsHidden) ∧ ∃ bytes, p.disk.find? loc = some (.file { bytes })

theorem Progress.Since.refl (h : start.WellFormed) : Since dir start { disk := start } where
  wellFormed := h
  here := rfl
  closed := rfl
  kept _ _ _ := .inl rfl
  promoted _ _ h := by cases h
  plain x h := by cases h
  inFlight _ h := by cases h

/-! #### Locations apart -/

theorem entry_ne_nil (dir : Location) (name : String) : dir.entry name ≠ [] := by
  simp [Location.entry]

theorem entry_injective {name other : String} (h : dir.entry name = dir.entry other) :
    name = other := by
  exact utf8_injective (List.append_singleton_inj.1 h).2

/-- No entry of a directory lies on the way to it. -/
theorem not_prefix_of_child (dir : Location) (name : Name) : ¬ dir ++ [name] <+: dir := by
  intro h
  have hle := h.length_le
  rw [List.length_append, List.length_singleton] at hle
  omega

theorem ne_child_of_way {loc : Location} (h : loc <+: dir) (name : Name) : loc ≠ dir ++ [name] := by
  rintro rfl
  exact not_prefix_of_child dir name h

/-- A staging file has no artifact's name. -/
theorem ne_entry_of_hidden {hidden : Name} (h : hidden.IsHidden) {name : String}
    (plain : nameFault? name = none) : dir ++ [hidden] ≠ dir.entry name := by
  intro he
  obtain ⟨-, rfl⟩ := List.append_singleton_inj.1 he
  exact not_isHidden_of_plain plain h

theorem KeptAt.of_eq {now later : Disk} {loc : Location} (h : KeptAt dir start now loc)
    (he : later.find? loc = now.find? loc) : KeptAt dir start later loc := by
  rcases h with h | ⟨h1, h2, h3⟩
  · exact .inl (he.trans h)
  · exact .inr ⟨h1, h2, he.trans h3⟩

/-- Where nothing stands, nothing stood. -/
theorem KeptAt.find?_eq_none {now : Disk} {loc : Location} (h : KeptAt dir start now loc)
    (he : now.find? loc = none) : start.find? loc = none := by
  rcases h with h | ⟨-, h, -⟩
  · exact h ▸ he
  · exact h

/-- What is put under a hidden name or taken away from there leaves the promoted names alone. -/
theorem Progress.Since.promoted_of_hidden (h : p.Since dir start) {later : Disk} {hidden : Name}
    (hhidden : hidden.IsHidden)
    (hsame : ∀ loc, loc ≠ dir ++ [hidden] → later.find? loc = p.disk.find? loc) (name : String)
    (bytes : Bytes) (hlookup : p.promoted.lookup name = some bytes) :
    later.find? (dir.entry name) = some (.file { bytes }) := by
  have hplain := h.plain _ (mem_of_lookup hlookup)
  rw [hsame _ (ne_entry_of_hidden hhidden hplain).symm]
  exact h.promoted name bytes hlookup

/-- While a staging file is on its way, the directory is there. -/
theorem Progress.Since.directory_of_inFlight (h : p.Since dir start) {loc : Location}
    (flight : p.inFlight = some loc) : p.disk.find? dir = some .directory := by
  obtain ⟨-, ⟨name, rfl, -⟩, bytes, hfile⟩ := h.inFlight loc flight
  have hfound : p.disk.find? (dir ++ [name]) ≠ none := by
    rw [hfile]
    simp
  exact h.wellFormed.parent hfound

/-! #### One change -/

theorem Progress.Since.makeDirectory (h : p.Since dir start) {front : Location} {name : Name}
    (idle : p.inFlight = none) (path : front ++ [name] <+: dir) (valid : name.Valid)
    (parent : p.disk.find? front = some .directory)
    (fresh : p.disk.find? (front ++ [name]) = none) :
    Since dir start { p with disk := p.disk.put (front ++ [name]) .directory } := by
  have hview : ∀ loc, (p.disk.put (front ++ [name]) .directory).find? loc =
      if loc = front ++ [name] then some .directory else p.disk.find? loc :=
    Disk.find?_put (by simp) _
  have hentry : ∀ other : String, dir.entry other ≠ front ++ [name] := fun other he =>
    ne_child_of_way path (utf8 other) he.symm
  refine ⟨h.wellFormed.put parent valid fun _ => rfl, h.here, h.closed, ?_, ?_, h.plain, ?_⟩
  · intro loc hflight hpromoted
    have hkept := h.kept loc hflight hpromoted
    by_cases hl : loc = front ++ [name]
    · refine .inr ⟨hl ▸ path, hkept.find?_eq_none (hl ▸ fresh), ?_⟩
      rw [hview, if_pos hl]
    · exact hkept.of_eq (by rw [hview, if_neg hl])
  · intro other bytes hother
    rw [hview, if_neg (hentry other)]
    exact h.promoted other bytes hother
  · intro loc hloc
    rw [idle] at hloc
    cases hloc

theorem Progress.Since.createFile (h : p.Since dir start) {name : String} {token : Token}
    (idle : p.inFlight = none) (plain : nameFault? name = none)
    (short : (utf8 (stagingName name token)).length ≤ nameLimit)
    (parent : p.disk.find? dir = some .directory)
    (fresh : p.disk.find? (dir.entry (stagingName name token)) = none) :
    Since dir start { p with disk := p.disk.put (dir.entry (stagingName name token)) (.file { bytes := [] })
                             inFlight := some (dir.entry (stagingName name token)) } := by
  have hidden := isHidden_stagingName name token
  have hview := fun loc => Disk.find?_put (d := p.disk) (entry_ne_nil dir (stagingName name token))
    (.file { bytes := [] }) loc
  have hapart : ∀ x ∈ p.promoted, dir.entry (stagingName name token) ≠ dir.entry x.1 :=
    fun x hx => ne_entry_of_hidden hidden (h.plain x hx)
  refine ⟨h.wellFormed.put parent ⟨proper_stagingName plain token, short⟩ ?_, h.here, h.closed, ?_, ?_,
    h.plain, ?_⟩
  · intro hold
    rw [Location.entry] at fresh
    rw [fresh] at hold
    cases hold
  · intro loc hflight hpromoted
    have hl : loc ≠ dir.entry (stagingName name token) := fun he => hflight (he ▸ rfl)
    exact (h.kept loc (by simp [idle]) hpromoted).of_eq (by rw [hview, if_neg hl])
  · exact h.promoted_of_hidden hidden fun loc hl => (hview loc).trans (if_neg hl)
  · intro loc hloc
    obtain rfl := Option.some.inj hloc
    refine ⟨(h.kept _ (by simp [idle]) hapart).find?_eq_none fresh, ⟨_, rfl, hidden⟩, [], ?_⟩
    rw [hview, if_pos rfl]

theorem Progress.Since.append (h : p.Since dir start) {loc : Location} (bytes : Bytes)
    (flight : p.inFlight = some loc) :
    Since dir start { p with disk := Change.apply p.disk (.append loc bytes) } := by
  obtain ⟨hstart, ⟨name, rfl, hidden⟩, before, hfile⟩ := h.inFlight loc flight
  have happly : Change.apply p.disk (.append (dir ++ [name]) bytes) =
      p.disk.put (dir ++ [name]) (.file { bytes := before ++ bytes }) := by
    simp only [Change.apply, hfile]
  have hview : ∀ loc, (p.disk.put (dir ++ [name]) (.file { bytes := before ++ bytes })).find? loc =
      if loc = dir ++ [name] then some (.file { bytes := before ++ bytes }) else p.disk.find? loc :=
    Disk.find?_put (by simp) _
  have hfound : p.disk.find? (dir ++ [name]) ≠ none := by simp [hfile]
  rw [happly]
  refine ⟨?_, h.here, h.closed, ?_, ?_, h.plain, ?_⟩
  · refine h.wellFormed.put (h.wellFormed.parent hfound) (h.wellFormed.valid hfound) fun hold => ?_
    rw [hfile] at hold
    cases hold
  · intro loc hflight hpromoted
    have hl : loc ≠ dir ++ [name] := fun he => hflight (he ▸ flight)
    exact (h.kept loc hflight hpromoted).of_eq (by rw [hview, if_neg hl])
  · exact h.promoted_of_hidden hidden fun loc hl => (hview loc).trans (if_neg hl)
  · intro loc hloc
    obtain rfl : dir ++ [name] = loc := Option.some.inj (flight.symm.trans hloc)
    refine ⟨hstart, ⟨name, rfl, hidden⟩, before ++ bytes, ?_⟩
    rw [hview, if_pos rfl]

/-- Away from the staging file, taking it away makes no difference. -/
theorem Progress.Since.find?_erase (h : p.Since dir start) {loc : Location}
    (flight : p.inFlight = some loc) (other : Location) :
    (p.disk.erase loc).find? other = if other = loc then none else p.disk.find? other := by
  obtain ⟨-, ⟨name, rfl, -⟩, -⟩ := h.inFlight loc flight
  exact Disk.find?_erase (by simp) other

theorem Progress.Since.remove (h : p.Since dir start) {loc : Location}
    (flight : p.inFlight = some loc) :
    Since dir start { p with disk := p.disk.erase loc, inFlight := none } := by
  obtain ⟨hstart, ⟨name, rfl, hidden⟩, bytes, hfile⟩ := h.inFlight loc flight
  have hview := h.find?_erase flight
  refine ⟨h.wellFormed.erase (by simp [hfile]), h.here, h.closed, ?_, ?_, h.plain, ?_⟩
  · intro loc hflight hpromoted
    by_cases hl : loc = dir ++ [name]
    · -- the staging file is gone, and nothing stood there before
      refine .inl ?_
      rw [hview, if_pos hl, hl, hstart]
    · refine (h.kept loc ?_ hpromoted).of_eq (by rw [hview, if_neg hl])
      exact fun he => hl (Option.some.inj (he.symm.trans flight))
  · exact h.promoted_of_hidden hidden fun loc hl => (hview loc).trans (if_neg hl)
  · intro loc hloc
    cases hloc

theorem Progress.Since.promote (h : p.Since dir start) {loc : Location} {name : String}
    {bytes : Bytes} (flight : p.inFlight = some loc) (plain : nameFault? name = none)
    (short : (utf8 name).length ≤ nameLimit)
    (content : p.disk.find? loc = some (.file { bytes }))
    (free : p.disk.find? (dir.entry name) ≠ some .directory) :
    Since dir start { disk := Change.apply p.disk (.rename loc (dir.entry name))
                      inFlight := none
                      promoted := (name, bytes) :: p.promoted } := by
  -- the disk without the staging file is as in `remove`; the rest is the entry put in its place
  have hremoved := h.remove flight
  obtain ⟨-, ⟨hiddenName, rfl, hidden⟩, -⟩ := h.inFlight loc flight
  have happly : Change.apply p.disk (.rename (dir ++ [hiddenName]) (dir.entry name)) =
      (p.disk.erase (dir ++ [hiddenName])).put (dir.entry name) (.file { bytes }) := by
    simp only [Change.apply, content]
  have hview := fun loc => Disk.find?_put (d := p.disk.erase (dir ++ [hiddenName]))
    (entry_ne_nil dir name) (.file { bytes }) loc
  have hdir : (p.disk.erase (dir ++ [hiddenName])).find? dir = some .directory := by
    rw [h.find?_erase flight, if_neg (ne_child_of_way List.prefix_rfl hiddenName)]
    exact h.directory_of_inFlight flight
  rw [happly]
  refine ⟨hremoved.wellFormed.put hdir ⟨proper_of_plain plain, short⟩ ?_, h.here, h.closed, ?_, ?_, ?_, ?_⟩
  · intro hold
    have hapart : dir ++ [utf8 name] ≠ dir ++ [hiddenName] := (ne_entry_of_hidden hidden plain).symm
    rw [h.find?_erase flight, if_neg hapart] at hold
    exact absurd hold free
  · intro loc hflight hpromoted
    have hl : loc ≠ dir.entry name := hpromoted (name, bytes) List.mem_cons_self
    refine (hremoved.kept loc (by simp) ?_).of_eq (by rw [hview, if_neg hl])
    exact fun x hx => hpromoted x (List.mem_cons_of_mem _ hx)
  · intro other later hother
    by_cases he : other = name
    · subst he
      rw [List.lookup_cons_self] at hother
      rw [hview, if_pos rfl, Option.some.inj hother]
    · have hbeq : (other == name) = false := by simp [he]
      rw [List.lookup_cons, hbeq] at hother
      rw [hview, if_neg fun heq => he (entry_injective heq)]
      exact hremoved.promoted other later hother
  · intro x hx
    rcases List.mem_cons.1 hx with rfl | hx
    · exact plain
    · exact h.plain x hx
  · intro loc hloc
    cases hloc

/-- One change keeps what is known. -/
theorem Advance.since {c : Change} (h : Advance dir p c q) (hp : p.Since dir start) :
    q.Since dir start := by
  cases h with
  | makeDirectory idle path valid parent fresh => exact hp.makeDirectory idle path valid parent fresh
  | createFile idle plain short parent fresh => exact hp.createFile idle plain short parent fresh
  | append flight => exact hp.append _ flight
  | promote flight plain short content free => exact hp.promote flight plain short content free
  | remove flight => exact hp.remove flight

/-! #### Many changes -/

variable {cs : List Change}

/-- **Whatever is known at one moment is known after any number of changes.** -/
theorem Advances.since (h : Advances dir p cs q) (hp : p.Since dir start) : q.Since dir start := by
  induction h with
  | nil => exact hp
  | cons head _ ih => exact ih (head.since hp)

/-- What has been promoted stays on the log. -/
theorem Advances.promoted_suffix (h : Advances dir p cs q) : p.promoted <:+ q.promoted := by
  induction h with
  | nil => exact List.suffix_rfl
  | cons head _ ih =>
    refine List.IsSuffix.trans ?_ ih
    cases head with
    | promote => exact List.suffix_cons _ _
    | _ => exact List.suffix_rfl

/-- **Every file that is made is a staging file, where nothing stood at the start.** -/
theorem Advances.of_createFile (h : Advances dir p cs q) (hp : p.Since dir start) {loc : Location}
    (hloc : .createFile loc ∈ cs) :
    start.find? loc = none ∧
      ∃ name token, nameFault? name = none ∧ loc = dir.entry (stagingName name token) := by
  induction h with
  | nil => cases hloc
  | cons head _ ih =>
    have hq := head.since hp
    rcases List.mem_cons.1 hloc with rfl | hloc
    · cases head with
      | @createFile name token _ plain =>
        exact ⟨(hq.inFlight _ rfl).1, name, token, plain, rfl⟩
    · exact ih hq hloc

end Since

/-! ### What is seen of it -/

namespace Progress.Since

variable {dir : Location} {start : Disk} {p : Progress}

/-- Nothing that was there disappears. -/
theorem find?_ne_none (h : p.Since dir start) {loc : Location} (hloc : start.find? loc ≠ none) :
    p.disk.find? loc ≠ none := by
  by_cases hflight : p.inFlight = some loc
  · exact absurd (h.inFlight loc hflight).1 hloc
  by_cases hpromoted : ∀ x ∈ p.promoted, loc ≠ dir.entry x.1
  · rcases h.kept loc hflight hpromoted with hkept | ⟨-, hnone, -⟩
    · rwa [hkept]
    · exact absurd hnone hloc
  · push Not at hpromoted
    obtain ⟨⟨name, bytes⟩, hx, rfl⟩ := hpromoted
    obtain ⟨later, hlookup⟩ := exists_lookup_of_mem hx
    rw [h.promoted name later hlookup]
    simp

/-- On the way to the directory everything is as it was, but missing directories may be there. -/
theorem kept_on_way (h : p.Since dir start) {loc : Location} (hloc : loc <+: dir) :
    KeptAt dir start p.disk loc := by
  refine h.kept loc ?_ fun x _ => ne_child_of_way hloc _
  intro hflight
  obtain ⟨-, ⟨name, hname, -⟩, -⟩ := h.inFlight loc hflight
  exact ne_child_of_way hloc name hname

theorem directory (h : p.Since dir start) {loc : Location} (hloc : loc <+: dir)
    (hdir : start.find? loc = some .directory) : p.disk.find? loc = some .directory := by
  rcases h.kept_on_way hloc with hkept | ⟨-, -, hnow⟩
  · exact hkept.trans hdir
  · exact hnow

theorem start_eq (h : p.Since dir start) (t : Trail) : p.disk.start t = start.start t :=
  Disk.start_of_here h.here t

theorem destination_eq (h : p.Since dir start) (t : Trail) :
    p.disk.destination t = start.destination t := Disk.destination_congr h.here t

/-- The way to the directory stays direct, and so does every part of it. -/
theorem direct {t : Trail} (h : p.Since dir start) (hdirect : start.Direct t)
    (hdest : start.destination t <+: dir) : p.disk.Direct t := by
  refine ⟨hdirect.noUp, fun front hfront target hlink => ?_⟩
  rw [h.start_eq] at hlink
  have hway : start.start t ++ front <+: dir :=
    ((List.prefix_append_right_inj _).2 hfront).trans hdest
  rcases h.kept_on_way hway with hkept | ⟨-, -, hnow⟩
  · exact hdirect.noLink front hfront target (hkept ▸ hlink)
  · rw [hnow] at hlink
    cases hlink

/-- A staging file that is not on its way is not there. -/
theorem find?_staging (h : p.Since dir start) {name : String} {token : Token}
    (hstart : start.find? (dir.entry (stagingName name token)) = none)
    (hflight : p.inFlight ≠ some (dir.entry (stagingName name token))) :
    p.disk.find? (dir.entry (stagingName name token)) = none := by
  have hapart : ∀ x ∈ p.promoted, dir.entry (stagingName name token) ≠ dir.entry x.1 :=
    fun x hx => ne_entry_of_hidden (isHidden_stagingName name token) (h.plain x hx)
  rcases h.kept _ hflight hapart with hkept | ⟨hway, -, -⟩
  · rw [hkept, hstart]
  · exact absurd hway (not_prefix_of_child dir _)

end Progress.Since

/-! ### Volumes on the way -/

/-- A volume in the course of a synchronization. -/
structure Moment where
  volume : Volume
  inFlight : Option Location := none
  promoted : List (String × Bytes) := []

namespace Moment

/-- The disk of a moment and what is known of it. -/
def progress (m : Moment) : Progress := ⟨m.volume.disk, m.inFlight, m.promoted⟩

/-- From one moment to another by changes toward an up-to-date directory. -/
def Leads (dir : Location) (m n : Moment) : Prop :=
  ∃ cs, m.volume.Makes cs n.volume ∧ Advances dir m.progress cs n.progress

variable {dir : Location} {start : Disk} {m n o : Moment}

theorem Leads.refl (m : Moment) : Leads dir m m := ⟨[], .refl _, .nil _⟩

theorem Leads.trans (h : Leads dir m n) (g : Leads dir n o) : Leads dir m o := by
  obtain ⟨cs, hcs, hm⟩ := h
  obtain ⟨ds, hds, hn⟩ := g
  exact ⟨cs ++ ds, hcs.trans hds, hm.append hn⟩

/-- One change is one step. -/
theorem Leads.of_makes {v w : Volume} {c : Change} {before after : Option Location}
    {log later : List (String × Bytes)} (hmakes : v.Makes [c] w)
    (h : Advance dir ⟨v.disk, before, log⟩ c ⟨c.apply v.disk, after, later⟩) :
    Leads dir ⟨v, before, log⟩ ⟨w, after, later⟩ := by
  refine ⟨[c], hmakes, .single ?_⟩
  simpa only [progress, hmakes.disk_apply] using h

/-- Without a change nothing is done. -/
theorem Leads.of_unchanged {v w : Volume} (hmakes : v.Makes [] w) (flight : Option Location)
    (log : List (String × Bytes)) : Leads dir ⟨v, flight, log⟩ ⟨w, flight, log⟩ := by
  refine ⟨[], hmakes, ?_⟩
  simp only [progress, hmakes.disk_eq]
  exact .nil _

theorem Leads.since (h : Leads dir m n) (hm : m.progress.Since dir start) :
    n.progress.Since dir start := by
  obtain ⟨cs, _, hn⟩ := h
  exact hn.since hm

theorem Leads.calm (h : Leads dir m n) (hm : m.volume.Calm) : n.volume.Calm := by
  obtain ⟨cs, hcs, _⟩ := h
  exact hcs.calm hm

end Moment

end FolderSync
