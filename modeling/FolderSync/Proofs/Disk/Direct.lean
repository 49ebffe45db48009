import FolderSync.Proofs.Disk.Passage
import Mathlib.Data.List.Infix

/-!
# Direct ways

A trail that never goes up and meets no link (`Disk.Direct`) leads straight down: where it leads to
is settled by its names alone (`Disk.destination`).

* `walk_append_of_directory`: a walk passes through directories that are there.
* `eq_of_walk`: a walk without links ends where the names say.
* `Direct.eq_destination`: the place for a new entry.
* `destination_absolute`: a path made absolute leads to the same place.
* `status_join`: what stands under a name in a directory, seen through a path.
-/

namespace FolderSync.Disk

/-- Where a trail leads if no link turns it aside. -/
def destination (d : Disk) (t : Trail) : Location := d.start t ++ t.names

/-- A trail that never goes up and meets no link. -/
structure Direct (d : Disk) (t : Trail) : Prop where
  noUp : Step.up ∉ t.steps
  noLink : ∀ front, front <+: t.names → ∀ target, d.find? (d.start t ++ front) ≠ some (.link target)

/-- Where a trail starts depends on the disk only by its working directory. -/
theorem start_of_here {d e : Disk} (h : d.here = e.here) (t : Trail) : d.start t = e.start t := by
  rw [start, start, h]

theorem destination_congr {d e : Disk} (h : d.here = e.here) (t : Trail) :
    d.destination t = e.destination t := by
  rw [destination, destination, start_of_here h]

variable {d : Disk} {loc out : Location} {last : Bool} {links : Nat}

theorem WellFormed.find?_start (h : d.WellFormed) (t : Trail) :
    d.find? (d.start t) = some .directory := by
  unfold start
  split
  · exact find?_root d
  · exact h.here

/-! ### Disks without links -/

/-- Is no entry of the disk a link? -/
def isLinkFree (d : Disk) : Bool :=
  d.entries.all fun p => match p.2 with
    | .link _ => false
    | _ => true

theorem find?_ne_link (h : d.isLinkFree = true) (loc : Location) (target : Bytes) :
    d.find? loc ≠ some (.link target) := by
  unfold find?
  split
  · simp
  · intro hlookup
    obtain ⟨front, back, hentries, -⟩ := List.lookup_eq_some_iff.1 hlookup
    have hentry := List.all_eq_true.1 h (loc, .link target) (by rw [hentries]; simp)
    cases hentry

/-- Without links every trail that never goes up is direct. -/
theorem Direct.of_isLinkFree (h : d.isLinkFree = true) {t : Trail} (hup : Step.up ∉ t.steps) :
    d.Direct t :=
  ⟨hup, fun _ _ target => find?_ne_link h _ target⟩

/-- Does a link stand at the location? -/
def isLinkAt (d : Disk) (loc : Location) : Bool :=
  match d.find? loc with
  | some (.link _) => true
  | _ => false

theorem isLinkAt_eq_false_iff :
    d.isLinkAt loc = false ↔ ∀ target, d.find? loc ≠ some (.link target) := by
  unfold isLinkAt
  constructor
  · intro h target hlink
    rw [hlink] at h
    cases h
  · intro h
    split
    · rename_i target hlink
      exact absurd hlink (h target)
    · rfl

/-- Whether a trail is direct can be seen at the locations on its way. -/
instance (d : Disk) (t : Trail) : Decidable (d.Direct t) :=
  decidable_of_iff (Step.up ∉ t.steps ∧ ∀ front ∈ t.names.inits, d.isLinkAt (d.start t ++ front) = false)
    ⟨fun h => ⟨h.1, fun front hfront => isLinkAt_eq_false_iff.1 (h.2 front ((List.mem_inits _ _).2 hfront))⟩,
      fun h => ⟨h.1, fun front hfront =>
        isLinkAt_eq_false_iff.2 (h.2 front ((List.mem_inits _ _).1 hfront))⟩⟩

/-! ### Walking -/

/-- A walk passes through directories that are there. -/
theorem walk_append_of_directory (h : d.WellFormed) {steps : List Step} (hup : Step.up ∉ steps)
    (hdir : d.find? (loc ++ namesOf steps) = some .directory) (more : List Step) :
    d.walk last links loc (steps ++ more) = d.walk last links (loc ++ namesOf steps) more := by
  induction steps generalizing loc with
  | nil => simp
  | cons step rest ih =>
    have hrest : Step.up ∉ rest := fun hm => hup (List.mem_cons_of_mem _ hm)
    cases step with
    | stay => rw [List.cons_append, walk_cons_stay, ih hrest hdir, namesOf_cons_stay]
    | up => exact absurd List.mem_cons_self hup
    | into name =>
      have hsplit : loc ++ namesOf (.into name :: rest) = (loc ++ [name]) ++ namesOf rest := by simp
      rw [hsplit] at hdir ⊢
      have hname : d.find? (loc ++ [name]) = some .directory :=
        h.directory_on_way' hdir (List.prefix_append _ _)
      have hlen : ¬ nameLimit < name.length :=
        Nat.not_lt.2 (h.valid (by rw [hname]; simp)).length_le
      rw [List.cons_append, walk_cons_into, if_neg hlen]
      simp only [hname]
      exact ih hrest hdir

/-- Going into a name under which no link stands: a directory is entered, a file ends the walk. -/
theorem walk_into {name : Name} {rest : List Step}
    (hlink : ∀ target, d.find? (loc ++ [name]) ≠ some (.link target))
    (h : d.walk last links loc (.into name :: rest) = .ok out) :
    name.length ≤ nameLimit ∧
      ((d.find? (loc ++ [name]) = some .directory ∧
          d.walk last links (loc ++ [name]) rest = .ok out) ∨
        ((∃ c, d.find? (loc ++ [name]) = some (.file c)) ∧ rest = [] ∧ out = loc ++ [name])) := by
  obtain ⟨hlen, hgoing⟩ := going_of_walk h
  refine ⟨hlen, ?_⟩
  cases hgoing with
  | enter entry next => exact .inl ⟨entry, next⟩
  | arrive entry done there => exact .inr ⟨⟨_, entry⟩, done, there⟩
  | keep entry => exact absurd entry (hlink _)
  | follow entry => exact absurd entry (hlink _)

/-- The links that are not on the way are not on the rest of it either. -/
theorem noLink_tail {name : Name} {rest : List Step}
    (hlink : ∀ front, front <+: namesOf (.into name :: rest) →
      ∀ target, d.find? (loc ++ front) ≠ some (.link target)) :
    ∀ front, front <+: namesOf rest → ∀ target, d.find? (loc ++ [name] ++ front) ≠ some (.link target) := by
  intro front hfront target
  rw [List.append_assoc]
  exact hlink _ (List.cons_prefix_cons.2 ⟨rfl, hfront⟩) target

/-- A walk that meets no link ends where the names say. -/
theorem eq_of_walk {steps : List Step} (hup : Step.up ∉ steps)
    (hlink : ∀ front, front <+: namesOf steps → ∀ target, d.find? (loc ++ front) ≠ some (.link target))
    (h : d.walk last links loc steps = .ok out) : out = loc ++ namesOf steps := by
  induction steps generalizing loc with
  | nil =>
    rw [walk_nil] at h
    simpa using (Except.ok.inj h).symm
  | cons step rest ih =>
    have hrest : Step.up ∉ rest := fun hm => hup (List.mem_cons_of_mem _ hm)
    cases step with
    | stay =>
      rw [walk_cons_stay] at h
      exact ih hrest hlink h
    | up => exact absurd List.mem_cons_self hup
    | into name =>
      have hfirst : ∀ target, d.find? (loc ++ [name]) ≠ some (.link target) :=
        hlink [name] (List.cons_prefix_cons.2 ⟨rfl, List.nil_prefix⟩)
      obtain ⟨-, ⟨-, hwalk⟩ | ⟨-, rfl, rfl⟩⟩ := walk_into hfirst h
      · rw [ih hrest (noLink_tail hlink) hwalk]
        simp
      · simp

/-- A walk that meets no link stays on the way. -/
theorem prefix_of_passed {steps : List Step} (hup : Step.up ∉ steps)
    (hlink : ∀ front, front <+: namesOf steps → ∀ target, d.find? (loc ++ front) ≠ some (.link target))
    {l : Location} (hl : l ∈ d.passed last links loc steps) : l <+: loc ++ namesOf steps := by
  induction steps generalizing loc with
  | nil => simp at hl
  | cons step rest ih =>
    have hrest : Step.up ∉ rest := fun hm => hup (List.mem_cons_of_mem _ hm)
    cases step with
    | stay =>
      rw [passed_cons_stay] at hl
      exact ih hrest hlink hl
    | up => exact absurd List.mem_cons_self hup
    | into name =>
      have hsplit : loc ++ namesOf (.into name :: rest) = (loc ++ [name]) ++ namesOf rest := by simp
      rw [hsplit]
      obtain ⟨-, rfl | ⟨-, hnext⟩ | ⟨target, -, hfirst, -⟩⟩ := mem_passed_into.1 hl
      · exact List.prefix_append _ _
      · exact ih hrest (noLink_tail hlink) hnext
      · exact absurd hfirst (hlink [name] (List.cons_prefix_cons.2 ⟨rfl, List.nil_prefix⟩) target)

/-- Two disks that show the same on the way lead a walk to the same place. -/
theorem walk_congr {e : Disk} {steps : List Step} (hup : Step.up ∉ steps)
    (hlink : ∀ front, front <+: namesOf steps → ∀ target, d.find? (loc ++ front) ≠ some (.link target))
    (hsame : ∀ front, front <+: namesOf steps → e.find? (loc ++ front) = d.find? (loc ++ front)) :
    e.walk last links loc steps = d.walk last links loc steps := by
  induction steps generalizing loc with
  | nil => rw [walk_nil, walk_nil]
  | cons step rest ih =>
    have hrest : Step.up ∉ rest := fun hm => hup (List.mem_cons_of_mem _ hm)
    cases step with
    | stay =>
      rw [walk_cons_stay, walk_cons_stay]
      exact ih hrest hlink hsame
    | up => exact absurd List.mem_cons_self hup
    | into name =>
      have hone : [name] <+: namesOf (.into name :: rest) :=
        List.cons_prefix_cons.2 ⟨rfl, List.nil_prefix⟩
      have hnext := ih hrest (noLink_tail hlink) fun front hfront => by
        rw [List.append_assoc]
        exact hsame _ (List.cons_prefix_cons.2 ⟨rfl, hfront⟩)
      rw [walk_cons_into, walk_cons_into, hsame _ hone]
      cases hentry : d.find? (loc ++ [name]) with
      | none => rfl
      | some entry =>
        cases entry with
        | directory =>
          dsimp only
          rw [hnext]
        | file c => rfl
        | link target => exact absurd hentry (hlink _ hone target)

/-! ### The place for a new entry -/

/-- The place that a direct trail gives lies at its destination. -/
theorem Direct.eq_destination {t : Trail} (hdirect : d.Direct t) {steps : List Step} {name : Name}
    (ht : t.steps = steps ++ [.into name]) {parent : Location}
    (hwalk : d.walk true linkLimit (d.start t) (steps ++ [.stay]) = .ok parent) :
    parent ++ [name] = d.destination t := by
  have hup : Step.up ∉ steps ++ [.stay] := fun hm => hdirect.noUp (by
    rw [ht]
    simpa using hm)
  have hlink : ∀ front, front <+: namesOf steps →
      ∀ target, d.find? (d.start t ++ front) ≠ some (.link target) := fun front hfront =>
    hdirect.noLink front (by
      rw [Trail.names, ht, namesOf_append]
      exact hfront.trans (List.prefix_append _ _))
  have hparent := eq_of_walk hup (by simpa using hlink) hwalk
  simp only [namesOf_append, namesOf_cons_stay, namesOf_nil, List.append_nil] at hparent
  rw [hparent, destination, Trail.names, ht]
  simp

/-- A slash at the end of a trail adds no name. -/
theorem namesOf_steps_slash (t : Trail) :
    namesOf (t.steps ++ if t.slash then [.stay] else []) = t.names := by
  cases t.slash <;> simp [Trail.names]

theorem noUp_steps_slash {t : Trail} (hup : Step.up ∉ t.steps) :
    Step.up ∉ t.steps ++ if t.slash then [.stay] else [] := by
  cases t.slash <;> simpa using hup

/-- A direct trail leads to its destination if it leads anywhere. -/
theorem eq_of_follow {t : Trail} (hdirect : d.Direct t) (h : d.follow last t = .ok out) :
    out = d.destination t := by
  unfold follow at h
  have hnames := namesOf_steps_slash t
  rw [eq_of_walk (noUp_steps_slash hdirect.noUp) (hnames ▸ hdirect.noLink) h, hnames, destination]

/-- A trail without steps up leads to its destination if a directory stands there. -/
theorem follow_eq (h : d.WellFormed) {t : Trail} (hup : Step.up ∉ t.steps)
    (hdir : d.find? (d.destination t) = some .directory) :
    d.follow last t = .ok (d.destination t) := by
  unfold follow
  rw [walk_append_of_directory h hup hdir]
  cases t.slash
  · simp only [Bool.false_eq_true, if_false, walk_nil]
    rfl
  · simp only [if_true, walk_cons_stay, walk_nil]
    rfl

/-- The way of a direct path goes straight down. -/
theorem Direct.prefix_of_way {p : Path} (hdirect : d.Direct p.trail) {l : Location} (hl : l ∈ d.way p) :
    l <+: d.destination p.trail := by
  have hnames := namesOf_steps_slash p.trail
  rw [destination, ← hnames]
  exact prefix_of_passed (noUp_steps_slash hdirect.noUp) (hnames ▸ hdirect.noLink) hl

theorem follow_congr {e : Disk} {t : Trail} (hdirect : d.Direct t) (hhere : e.here = d.here)
    (hsame : ∀ front, front <+: d.destination t → e.find? front = d.find? front) :
    e.follow last t = d.follow last t := by
  have hnames := namesOf_steps_slash t
  unfold follow
  rw [start_of_here hhere]
  refine walk_congr (noUp_steps_slash hdirect.noUp) (hnames ▸ hdirect.noLink)
    fun front hfront => hsame _ ?_
  rw [hnames] at hfront
  exact (List.prefix_append_right_inj _).2 hfront

/-! ### Absolute paths -/

/-- Making a path absolute depends on the disk only by its working directory. -/
theorem absolute_congr {e : Disk} (h : e.here = d.here) (p : Path) : e.absolute p = d.absolute p := by
  rw [absolute, absolute, workingDirectory, workingDirectory, h]

/-- The absolute path of the working directory goes into one name after the other. -/
theorem trail_workingDirectory (h : d.WellFormed) :
    d.workingDirectory.trail.absolute = true ∧
      d.workingDirectory.trail.steps = d.here.map .into := by
  have hvalid : ∀ name ∈ d.here, name.Valid := fun name hname =>
    h.valid_of_mem (by rw [h.here]; simp) hname
  refine ⟨by simp [workingDirectory, Path.trail, Trail.ofBytes], ?_⟩
  show (fieldsBy (· = slashByte) (slashByte :: joinFields slashByte d.here)).filterMap
    Step.ofField? = _
  rw [← List.nil_append (slashByte :: _), fieldsBy_append_cons (by simp), List.filterMap_append]
  by_cases hne : d.here = []
  · rw [hne]
    rfl
  · rw [fieldsBy_joinFields hne fun name hname => (hvalid name hname).noSlash]
    exact filterMap_ofField? fun name hname => (hvalid name hname).toProper

/-- Making a path absolute brings no NUL byte into it. -/
theorem noNul_absolute (h : d.WellFormed) {p : Path} (hp : 0 ∉ p.bytes) : 0 ∉ (d.absolute p).bytes := by
  have hhere : 0 ∉ d.workingDirectory.bytes := by
    intro hnul
    rcases List.mem_cons.1 hnul with hslash | hjoined
    · simp [slashByte] at hslash
    · obtain hslash | ⟨name, hname, hin⟩ := eq_or_mem_of_mem_joinFields hjoined
      · simp [slashByte] at hslash
      · exact (h.valid_of_mem (by rw [h.here]; simp) hname).noNul hin
  unfold absolute Path.append
  split_ifs
  · exact hp
  · exact List.not_mem_append hhere hp
  · simpa [slashByte] using ⟨hhere, hp⟩

theorem absolute_of_isAbsolute {p : Path} (hp : p.isAbsolute = true) : d.absolute p = p := by
  simp [absolute, Path.append, hp]

/-- Made absolute, a path starts at the root and goes to the working directory first. -/
theorem start_absolute (h : d.WellFormed) {p : Path} (hp : p.isAbsolute = false) :
    d.start (d.absolute p).trail = [] ∧
      (d.absolute p).trail.steps = d.here.map .into ++ p.trail.steps ∧
      d.start p.trail = d.here := by
  have hrel : p.trail.absolute = false := by
    simpa [Path.isAbsolute, Path.trail, Trail.ofBytes] using hp
  obtain ⟨habs, hsteps⟩ := trail_workingDirectory h
  rw [absolute, Path.steps_append hp, hsteps, start, start, Path.absolute_append hp, habs, hrel]
  simp

theorem noUp_absolute (h : d.WellFormed) {p : Path} (hup : Step.up ∉ p.trail.steps) :
    Step.up ∉ (d.absolute p).trail.steps := by
  cases hp : p.isAbsolute with
  | true => rwa [absolute_of_isAbsolute hp]
  | false =>
    rw [(start_absolute h hp).2.1]
    simpa using hup

/-- A path made absolute leads to where the path leads. -/
theorem destination_absolute (h : d.WellFormed) (p : Path) :
    d.destination (d.absolute p).trail = d.destination p.trail := by
  cases hp : p.isAbsolute with
  | true => rw [absolute_of_isAbsolute hp]
  | false =>
    obtain ⟨hroot, hsteps, hhere⟩ := start_absolute h hp
    rw [destination, destination, hroot, hhere, Trail.names, hsteps]
    simp [Trail.names]

/-! ### Paths that are accepted -/

/-- A path that leads anywhere is accepted. -/
theorem opens_of_locate {p : Path} (h : d.locate p = .ok loc) : p.Opens :=
  .of_not_error fun cause hopen => by
    rw [locate, hopen] at h
    cases h

/-- An accepted path leads where its trail does. -/
theorem locate_eq {p : Path} (h : p.Opens) : d.locate p = d.follow true p.trail := by
  rw [locate, h.open?_eq]
  rfl

/-- What a path leads to stands where it leads. -/
theorem status_eq_ok_iff {p : Path} {entry : Entry} :
    d.status p = .ok entry ↔ ∃ loc, d.locate p = .ok loc ∧ d.find? loc = some entry := by
  unfold status
  cases d.locate p with
  | error cause => simp
  | ok loc => cases hfind : d.find? loc <;> simp [hfind]

/-! ### Names behind a path -/

section Join

variable {p : Path} {name : String}

theorem start_join (p : Path) (hname : Name.Proper (utf8 name)) :
    d.start (p.join name).trail = d.start p.trail := by
  rw [start, start, Path.trail_join p hname]

/-- A name behind a path is sought in the directory that the path leads to. -/
theorem locate_join (h : d.WellFormed) (hup : Step.up ∉ p.trail.steps)
    (hdir : d.find? (d.destination p.trail) = some .directory) (hname : Name.Proper (utf8 name))
    (hopen : (p.join name).Opens) :
    d.locate (p.join name) = d.walk true linkLimit (d.destination p.trail) [.into (utf8 name)] := by
  rw [locate_eq hopen, follow, start_join p hname, Path.trail_join p hname]
  simp only [Bool.false_eq_true, if_false, List.append_nil]
  exact walk_append_of_directory h hup hdir _

/-- What stands under a name in a directory, seen through a path: nothing but a link makes a
difference. -/
theorem status_join (h : d.WellFormed) (hup : Step.up ∉ p.trail.steps)
    (hdir : d.find? (d.destination p.trail) = some .directory) (hname : Name.Proper (utf8 name))
    (hopen : (p.join name).Opens)
    (hlink : ∀ target, d.find? (d.destination p.trail ++ [utf8 name]) ≠ some (.link target)) {e : Entry} :
    d.status (p.join name) = .ok e ↔ d.find? (d.destination p.trail ++ [utf8 name]) = some e := by
  rw [status_eq_ok_iff, locate_join h hup hdir hname hopen]
  constructor
  · rintro ⟨found, hw, he⟩
    obtain ⟨-, ⟨-, hrest⟩ | ⟨-, -, rfl⟩⟩ := walk_into hlink hw
    · rw [walk_nil] at hrest
      rwa [Except.ok.inj hrest]
    · exact he
  · intro hentry
    have hlen : ¬ nameLimit < (utf8 name).length :=
      Nat.not_lt.2 (h.valid (by rw [hentry]; simp)).length_le
    have hw : d.walk true linkLimit (d.destination p.trail) [.into (utf8 name)] =
        .ok (d.destination p.trail ++ [utf8 name]) := by
      rw [walk_cons_into, if_neg hlen]
      cases e with
      | directory => simp [hentry]
      | file c => simp [hentry]
      | link target => exact absurd hentry (hlink target)
    exact ⟨_, hw, hentry⟩

end Join

end FolderSync.Disk
