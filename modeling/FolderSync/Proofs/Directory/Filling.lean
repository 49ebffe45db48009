import FolderSync.Proofs.Directory.Making
import FolderSync.Proofs.Disk.Descent

/-!
# Filling in a path

`Volume.fill` makes the directories of a list of names that are missing, up to the first name that
cannot be passed.  On a direct way, and where the disk grants all calls, `Volume.ensurePath` fills in all
names but the last and then makes the last directory (`ensurePath_eq`).

* `passes_fill`: what is filled in can be passed, and the obstacle that is met remains.
* `ensureParts_eq_fill`: where only missing names stand in the way, `ensureParts` fills them in.
* `ensurePath_of_directory`: a directory that is there is not made again.
-/

namespace FolderSync

namespace Volume

open Disk

/-- Makes the directories of names that are missing below a directory, one in the other. -/
def fill (v : Volume) (loc : Location) : List Name → Volume × Except Cause Unit
  | [] => (v, .ok ())
  | name :: rest =>
    if nameLimit < name.length then (v, .error .nameTooLong)
    else match v.disk.find? (loc ++ [name]) with
      | none => (v.perform (.makeDirectory (loc ++ [name]))).fill (loc ++ [name]) rest
      | some .directory => v.fill (loc ++ [name]) rest
      | some _ => (v, .error .notADirectory)

/-- Makes one directory in another, unless it is there. -/
def makeIn (v : Volume) (loc : Location) (name : Name) : Volume × Except Cause Unit :=
  if nameLimit < name.length then (v, .error .nameTooLong)
  else match v.disk.find? (loc ++ [name]) with
    | none => (v.perform (.makeDirectory (loc ++ [name])), .ok ())
    | some .directory => (v, .ok ())
    | some _ => (v, .error .alreadyExists)

variable {v w : Volume} {loc : Location} {names : List Name} {name : Name} {t : Trail}
  {steps : List Step} {p : Path}

/-! ### What is filled in -/

theorem fill_append (v : Volume) (loc : Location) (front back : List Name) :
    v.fill loc (front ++ back) =
      match v.fill loc front with
      | (w, .error cause) => (w, .error cause)
      | (w, .ok ()) => w.fill (loc ++ front) back := by
  induction front generalizing v loc with
  | nil => simp [fill]
  | cons name front ih =>
    have hsplit : loc ++ name :: front = (loc ++ [name]) ++ front := by simp
    rw [List.cons_append, fill, fill, hsplit]
    by_cases hlen : nameLimit < name.length
    · simp only [if_pos hlen]
    · simp only [if_neg hlen]
      cases v.disk.find? (loc ++ [name]) with
      | none => exact ih _ _
      | some entry =>
        cases entry with
        | directory => exact ih _ _
        | file c => rfl
        | link target => rfl

/-- Filling in changes nothing but missing names on the way. -/
theorem find?_fill (v : Volume) (loc : Location) (names : List Name) (other : Location) :
    (v.fill loc names).1.disk.find? other = v.disk.find? other ∨
      (v.disk.find? other = none ∧ (v.fill loc names).1.disk.find? other = some .directory ∧
        other <+: loc ++ names) := by
  induction names generalizing v loc with
  | nil => exact .inl rfl
  | cons name names ih =>
    have hsplit : loc ++ name :: names = (loc ++ [name]) ++ names := by simp
    rw [fill, hsplit]
    split
    · exact .inl rfl
    · split
      · rename_i hnone
        have hmade := find?_makeDirectory v loc name other
        rcases ih (v.perform (.makeDirectory (loc ++ [name]))) (loc ++ [name]) with hsame | hfresh
        · by_cases hother : other = loc ++ [name]
          · rw [if_pos hother] at hmade
            exact .inr ⟨hother ▸ hnone, hsame.trans hmade, hother ▸ List.prefix_append _ _⟩
          · rw [if_neg hother] at hmade
            exact .inl (hsame.trans hmade)
        · refine .inr ⟨?_, hfresh.2⟩
          rw [hfresh.1] at hmade
          split at hmade
          · cases hmade
          · exact hmade.symm
      · exact ih v (loc ++ [name])
      · exact .inl rfl

theorem calm_fill (h : v.Calm) (loc : Location) (names : List Name) : (v.fill loc names).1.Calm := by
  induction names generalizing v loc with
  | nil => exact h
  | cons name names ih =>
    rw [fill]
    split
    · exact h
    · split
      · exact ih ((v.makes_perform _).calm h) _
      · exact ih h _
      · exact h

/-- What is there stays. -/
theorem find?_fill_of_ne_none (h : v.disk.find? loc ≠ none) (base : Location) (names : List Name) :
    (v.fill base names).1.disk.find? loc = v.disk.find? loc := by
  rcases find?_fill v base names loc with hsame | ⟨hnone, -⟩
  · exact hsame
  · exact absurd hnone h

theorem find?_fill_of_apart {base : Location} (h : ¬ loc <+: base ++ names) :
    (v.fill base names).1.disk.find? loc = v.disk.find? loc := by
  rcases find?_fill v base names loc with hsame | ⟨-, -, hway⟩
  · exact hsame
  · exact absurd hway h

theorem fill_grown (hdisk : v.disk.WellFormed) (hloc : v.disk.find? loc = some .directory)
    (hproper : ∀ name ∈ names, name.Proper) : v.disk.Grown (v.fill loc names).1.disk := by
  induction names generalizing v loc with
  | nil => exact .refl hdisk
  | cons name names ih =>
    have hrest : ∀ name ∈ names, Name.Proper name := fun n hn => hproper n (List.mem_cons_of_mem _ hn)
    rw [fill]
    split
    · exact .refl hdisk
    · rename_i hlen
      split
      · rename_i hnone
        have hgrown := perform_makeDirectory_grown hdisk hloc
          ⟨hproper name List.mem_cons_self, Nat.not_lt.1 hlen⟩ hnone
        exact hgrown.trans (ih hgrown.wellFormed (find?_makeDirectory_self v loc name) hrest)
      · rename_i hdir
        exact ih hdisk hdir hrest
      · exact .refl hdisk

/-- What is filled in can be passed; what cannot be filled in cannot be passed, for the same cause. -/
theorem passes_fill (v : Volume) (loc : Location) (names : List Name) :
    (v.fill loc names).1.disk.passes loc names = (v.fill loc names).2 := by
  induction names generalizing v loc with
  | nil => rfl
  | cons name names ih =>
    unfold passes at ih ⊢
    rw [fill, descend]
    by_cases hlen : nameLimit < name.length
    · simp only [if_pos hlen]
    · simp only [if_neg hlen]
      cases hentry : v.disk.find? (loc ++ [name]) with
      | none =>
        have hmade := find?_makeDirectory_self v loc name
        have hkept := find?_fill_of_ne_none (by rw [hmade]; simp) (loc ++ [name]) names
        simp only [hkept.trans hmade]
        exact ih _ _
      | some entry =>
        cases entry with
        | directory =>
          have hkept := find?_fill_of_ne_none (v := v) (by rw [hentry]; simp) (loc ++ [name]) names
          simp only [hkept.trans hentry]
          exact ih _ _
        | file c => simp only [hentry]
        | link target => simp only [hentry]

/-- Where nothing is missing, nothing is made. -/
theorem fill_eq_of_passes (h : v.disk.passes loc names ≠ .error .notFound) :
    v.fill loc names = (v, v.disk.passes loc names) := by
  induction names generalizing loc with
  | nil => rfl
  | cons name names ih =>
    unfold passes at ih h ⊢
    rw [descend] at h ⊢
    rw [fill]
    by_cases hlen : nameLimit < name.length
    · simp only [if_pos hlen]
    · simp only [if_neg hlen] at h ⊢
      cases hentry : v.disk.find? (loc ++ [name]) with
      | none => simp [hentry] at h
      | some entry =>
        simp only [hentry] at h
        cases entry with
        | directory => exact ih h
        | file c => rfl
        | link target => rfl

/-- One directory more, unless a file stands there. -/
theorem makeIn_eq_fill (h : ∀ e, v.disk.find? (loc ++ [name]) = some e → e = .directory) :
    v.makeIn loc name = v.fill loc [name] := by
  rw [makeIn, fill]
  by_cases hlen : nameLimit < name.length
  · simp only [if_pos hlen]
  · simp only [if_neg hlen]
    cases hentry : v.disk.find? (loc ++ [name]) with
    | none => rfl
    | some entry =>
      obtain rfl := h entry hentry
      rfl

/-! ### Making the last directory -/

/-- Where making a directory fails as it is, a directory that is there is as good. -/
theorem ensureDirectory_of_failed {cause : Cause} (h : v.makeDirectory t = (v, .error cause)) :
    v.ensureDirectory t = (v, if v.leadsToDirectory t then .ok () else .error cause) := by
  rw [ensureDirectory, h]
  dsimp only
  split <;> rfl

/-- Where the names before the last cannot be passed, the last directory is not made either. -/
theorem ensureDirectory_eq_error (ht : v.disk.Direct t) {cause : Cause}
    (h : v.disk.passes (v.disk.start t) t.names.dropLast = .error cause) :
    v.ensureDirectory t = (v, .error cause) := by
  rw [passes_eq_error_iff] at h
  have hwhole : ∀ rest, v.disk.descend (v.disk.start t) (t.names.dropLast ++ rest) = .error cause :=
    fun rest => by rw [descend_append, h]
  have hplace : v.disk.slot t = .error cause ∧ v.disk.follow true t = .error cause := by
    by_cases hlast : ∃ name, t.steps.getLast? = some (.into name)
    · obtain ⟨name, hname⟩ := hlast
      obtain ⟨steps, hsteps⟩ := List.getLast?_eq_some_iff.1 hname
      rw [names_eq_concat hsteps, List.dropLast_concat] at h
      rw [ht.slot_into hsteps, ht.follow_into true hsteps, h]
      exact ⟨rfl, rfl⟩
    · have hnames : v.disk.descend (v.disk.start t) t.names = .error cause := by
        by_cases hnil : t.names = []
        · rw [hnil] at h
          cases h
        · rw [← List.dropLast_append_getLast hnil]
          exact hwhole _
      rw [ht.slot_stay (not_exists.1 hlast), ht.follow_stay true (not_exists.1 hlast), hnames]
      exact ⟨rfl, rfl⟩
  have hfailed : v.makeDirectory t = (v, .error cause) := by rw [makeDirectory, hplace.1]
  rw [ensureDirectory_of_failed hfailed, leadsToDirectory, hplace.2]
  rfl

/-- Making the directory at the end of a trail that ends in a name. -/
theorem ensureDirectory_into (hcalm : v.Calm) (ht : v.disk.Direct t) (hsteps : t.steps = steps ++ [.into name])
    (h : v.disk.passes (v.disk.start t) (namesOf steps) = .ok ()) :
    v.ensureDirectory t = v.makeIn (v.disk.start t ++ namesOf steps) name := by
  rw [passes_eq_ok_iff] at h
  have hslot := ht.slot_into hsteps
  have hfollow := ht.follow_into true hsteps
  have hlink : ∀ target,
      v.disk.find? (v.disk.start t ++ namesOf steps ++ [name]) ≠ some (.link target) := by
    rw [List.append_assoc, ← names_eq_concat hsteps]
    exact ht.noLink _ List.prefix_rfl
  generalize v.disk.start t ++ namesOf steps = parent at h hlink ⊢
  rw [h] at hslot hfollow
  simp only at hslot hfollow
  rw [walk_cons_into] at hfollow
  by_cases hlen : nameLimit < name.length
  · rw [if_pos hlen] at hslot hfollow
    have hfailed : v.makeDirectory t = (v, .error .nameTooLong) := by rw [makeDirectory, hslot]
    rw [ensureDirectory_of_failed hfailed, leadsToDirectory, hfollow, makeIn, if_pos hlen]
    rfl
  · rw [if_neg hlen] at hslot hfollow
    rw [makeIn, if_neg hlen]
    cases hentry : v.disk.find? (parent ++ [name]) with
    | none =>
      have hmade : v.makeDirectory t = (v.perform (.makeDirectory (parent ++ [name])), .ok ()) := by
        simp only [makeDirectory, hslot, hentry, hcalm.attempt_eq]
      rw [ensureDirectory, hmade]
    | some entry =>
      have hfailed : v.makeDirectory t = (v, .error .alreadyExists) := by
        simp only [makeDirectory, hslot, hentry]
      rw [ensureDirectory_of_failed hfailed, leadsToDirectory, hfollow]
      cases entry with
      | directory => cases t.slash <;> simp [hentry]
      | file c => cases t.slash <;> simp [hentry]
      | link target => exact absurd hentry (hlink target)

/-- A trail that does not end in a name makes nothing. -/
theorem ensureDirectory_stay (hdisk : v.disk.WellFormed) (ht : v.disk.Direct t)
    (hlast : ∀ name, t.steps.getLast? ≠ some (.into name)) :
    v.ensureDirectory t = (v, v.disk.passes (v.disk.start t) t.names) := by
  have hslot := ht.slot_stay hlast
  have hfollow := ht.follow_stay true hlast
  unfold passes
  cases h : v.disk.descend (v.disk.start t) t.names with
  | error cause =>
    rw [h] at hslot hfollow
    have hfailed : v.makeDirectory t = (v, .error cause) := by rw [makeDirectory, hslot]
    rw [ensureDirectory_of_failed hfailed, leadsToDirectory, hfollow]
    rfl
  | ok loc =>
    rw [h] at hslot hfollow
    have hfailed : v.makeDirectory t = (v, .error .alreadyExists) := by rw [makeDirectory, hslot]
    rw [ensureDirectory_of_failed hfailed, leadsToDirectory, hfollow]
    simp [directory_of_descend (hdisk.find?_start t) h]

/-! ### Making all of them -/

theorem eq_of_ensureDirectory_notFound (h : v.ensureDirectory t = (w, .error .notFound)) :
    w = v := by
  unfold ensureDirectory at h
  split at h
  · cases h
  · rename_i hmake
    split at h <;> cases h
    exact (makeDirectory_eq_error hmake).2.resolve_right (by simp)

/-- What can be filled in of a trail keeps its start and is passed as far as it was filled in. -/
theorem fill_dropLast (hdisk : v.disk.WellFormed) (ht : v.disk.Direct t)
    (hproper : ∀ name ∈ t.names, name.Proper) {result : Except Cause Unit}
    (hfill : v.fill (v.disk.start t) t.names.dropLast = (w, result)) :
    v.disk.Grown w.disk ∧ w.disk.Direct t ∧ w.disk.start t = v.disk.start t ∧
      w.disk.passes (w.disk.start t) t.names.dropLast = result := by
  have hgrown : v.disk.Grown (v.fill (v.disk.start t) t.names.dropLast).1.disk :=
    fill_grown hdisk (hdisk.find?_start t) fun name hname =>
      hproper name (List.dropLast_subset _ hname)
  have hpasses := passes_fill v (v.disk.start t) t.names.dropLast
  rw [hfill] at hgrown hpasses
  have hstart := hgrown.start_eq t
  exact ⟨hgrown, hgrown.direct ht, hstart, hstart ▸ hpasses⟩

/-- Making a directory, and when something is missing on the way making that first, is filling in all
names but the last and then making the directory. -/
theorem retry_eq (hdisk : v.disk.WellFormed) (ht : v.disk.Direct t)
    (hproper : ∀ name ∈ t.names, name.Proper) (missing : Volume → Volume × Except Cause Unit)
    (hmissing : v.disk.passes (v.disk.start t) t.names.dropLast ∈ [.ok (), .error .notFound] →
      missing v = v.fill (v.disk.start t) t.names.dropLast) :
    (match v.ensureDirectory t with
      | (w, .error .notFound) =>
        match missing w with
        | (x, .error cause) => (x, .error cause)
        | (x, .ok ()) => x.ensureDirectory t
      | done => done) =
      (v.fill (v.disk.start t) t.names.dropLast).1.ensureDirectory t := by
  split
  · rename_i w hfirst
    obtain rfl := eq_of_ensureDirectory_notFound hfirst
    rw [hmissing ?_]
    · cases hfill : w.fill (w.disk.start t) t.names.dropLast with
      | mk x result =>
        cases result with
        | error cause =>
          obtain ⟨-, ht', -, hpasses⟩ := fill_dropLast hdisk ht hproper hfill
          exact (ensureDirectory_eq_error ht' hpasses).symm
        | ok _ => rfl
    · cases hpasses : w.disk.passes (w.disk.start t) t.names.dropLast with
      | ok _ => simp
      | error cause =>
        rw [ensureDirectory_eq_error ht hpasses] at hfirst
        simpa using (Prod.mk.inj hfirst).2
  · rename_i hfirst
    rw [fill_eq_of_passes]
    intro hpasses
    exact hfirst v (ensureDirectory_eq_error ht hpasses)

/-- Making the last directory after the others is filling it in, unless a file stands there. -/
theorem ensureDirectory_fill (hcalm : v.Calm) (hdisk : v.disk.WellFormed) (ht : v.disk.Direct t)
    (hproper : ∀ name ∈ t.names, name.Proper) (hsteps : t.steps = steps ++ [.into name])
    (h : v.disk.passes (v.disk.start t) t.names ∈ [.ok (), .error .notFound]) :
    (v.fill (v.disk.start t) t.names.dropLast).1.ensureDirectory t =
      v.fill (v.disk.start t) t.names := by
  have hnames := names_eq_concat hsteps
  cases hfill : v.fill (v.disk.start t) t.names.dropLast with
  | mk w result =>
    obtain ⟨hgrown, ht', hstart, hpasses⟩ := fill_dropLast hdisk ht hproper hfill
    have hkept := find?_fill_of_apart (v := v)
      (not_prefix_of_child (v.disk.start t ++ t.names.dropLast) name)
    have hcalmw := calm_fill hcalm (v.disk.start t) t.names.dropLast
    rw [hnames, fill_append]
    rw [hfill] at hkept hcalmw
    rw [hnames, List.dropLast_concat] at hfill hpasses hkept
    rw [hfill]
    cases result with
    | error cause =>
      exact ensureDirectory_eq_error ht' (by rw [hnames, List.dropLast_concat]; exact hpasses)
    | ok _ =>
      dsimp only
      rw [ensureDirectory_into hcalmw ht' hsteps hpasses, hstart]
      refine makeIn_eq_fill fun e he => ?_
      rw [hkept] at he
      -- where something stands under the last name, only a directory can be passed
      have hlen := (hdisk.valid (by rw [he]; simp)).length_le
      have hparent := passes_of_directory hdisk (hdisk.parent (by rw [he]; simp))
      rw [hnames, passes_append, hparent] at h
      simp only [passes_singleton, he, if_neg (Nat.not_lt.2 hlen)] at h
      cases e with
      | directory => rfl
      | file c => simp at h
      | link target => simp at h

/-- The first names of a direct trail are a direct way. -/
theorem direct_front {lead : List Step} (hlead : lead = [] ∨ lead = [.stay]) (ht : v.disk.Direct t)
    (hnames : names <+: t.names) : v.disk.Direct ⟨t.absolute, lead ++ names.map .into, false⟩ := by
  refine (ht.on_way (u := ⟨t.absolute, lead ++ names.map .into, false⟩) rfl ?_ ?_).1
  · rcases hlead with rfl | rfl <;> simp
  · rcases hlead with rfl | rfl <;> simpa [Trail.names] using hnames

/-- **Where only missing names stand in the way, they are filled in.** -/
theorem ensureParts_eq_fill (absolute : Bool) {lead : List Step}
    (hlead : lead = [] ∨ lead = [.stay]) (back : List Name) (hcalm : v.Calm)
    (hdisk : v.disk.WellFormed) (hproper : ∀ name ∈ back, name.Proper)
    (ht : v.disk.Direct ⟨absolute, lead ++ back.reverse.map .into, false⟩)
    (h : v.disk.passes (v.disk.start ⟨absolute, [], false⟩) back.reverse ∈
      [.ok (), .error .notFound]) :
    v.ensureParts absolute (back.map .into ++ lead) =
      v.fill (v.disk.start ⟨absolute, [], false⟩) back.reverse := by
  induction back with
  | nil =>
    rcases hlead with rfl | rfl
    · rfl
    · have hstay : v.ensureDirectory ⟨absolute, [.stay], false⟩ = (v, .ok ()) :=
        ensureDirectory_stay hdisk ht (by simp)
      simp [ensureParts, hstay, fill]
  | cons name back ih =>
    have hsteps : ((name :: back).map Step.into ++ lead).reverse =
        (lead ++ back.reverse.map .into) ++ [.into name] := by
      rcases hlead with rfl | rfl <;> simp
    have hnames : namesOf (lead ++ back.reverse.map .into) = back.reverse := by
      rcases hlead with rfl | rfl <;> rw [namesOf_append, namesOf_map_into] <;> rfl
    generalize htrail : (⟨absolute, (lead ++ back.reverse.map .into) ++ [.into name], false⟩ : Trail) = t
    have hname : t.names = back.reverse ++ [name] := by
      rw [← htrail, names_eq_concat rfl, hnames]
    have hstart : v.disk.start ⟨absolute, [], false⟩ = v.disk.start t := by rw [← htrail]; rfl
    have ht' : v.disk.Direct t := by
      rw [← htrail]
      simpa using ht
    have hproper' : ∀ name ∈ t.names, Name.Proper name := by
      rw [hname, ← List.reverse_cons]
      exact fun n hn => hproper n (List.mem_reverse.1 hn)
    rw [hstart, List.reverse_cons] at h ⊢
    rw [← hname] at h ⊢
    rw [← ensureDirectory_fill hcalm hdisk ht' hproper' (by rw [← htrail]) h]
    have hretry := retry_eq hdisk ht' hproper'
      (fun w => w.ensureParts absolute (back.map .into ++ lead)) fun hbefore => by
        rw [hname, List.dropLast_concat] at hbefore ⊢
        rw [← hstart] at hbefore ⊢
        have hfront := direct_front hlead ht' (hname ▸ List.prefix_append back.reverse [name])
        rw [← htrail] at hfront
        exact ih (fun n hn => hproper n (List.mem_cons_of_mem _ hn)) hfront hbefore
    rw [← hretry, ← htrail, ← hsteps]
    rfl

/-! ### Making a path -/

theorem filter_stay_eq {steps : List Step} (hup : Step.up ∉ steps) :
    steps.filter (· ≠ .stay) = (namesOf steps).map .into := by
  induction steps with
  | nil => rfl
  | cons step rest ih =>
    have hrest := ih fun hm => hup (List.mem_cons_of_mem _ hm)
    cases step with
    | stay => rw [List.filter_cons_of_neg (by simp), hrest, namesOf_cons_stay]
    | up => exact absurd List.mem_cons_self hup
    | into name =>
      rw [List.filter_cons_of_pos (by simp), hrest, namesOf_cons_into, List.map_cons]

/-- The parts of a trail that never goes up are its names, but it may stay first. -/
theorem parts_eq (hup : Step.up ∉ t.steps) :
    ∃ lead : List Step, (lead = [] ∨ lead = [.stay]) ∧ t.parts = lead ++ t.names.map .into := by
  unfold Trail.parts Trail.names
  split
  · rename_i rest _ hsteps
    refine ⟨[.stay], .inr rfl, ?_⟩
    rw [hsteps, filter_stay_eq fun hm => hup (by rw [hsteps]; exact List.mem_cons_of_mem _ hm)]
    rfl
  · exact ⟨[], .inl rfl, filter_stay_eq hup⟩

theorem reverse_dropLast_parts (hup : Step.up ∉ t.steps) :
    ∃ lead : List Step, (lead = [] ∨ lead = [.stay]) ∧
      t.parts.dropLast.reverse = t.names.dropLast.reverse.map .into ++ lead := by
  obtain ⟨lead, hlead, hparts⟩ := parts_eq hup
  rw [hparts]
  cases t.names using List.reverseRecOn with
  | nil => rcases hlead with rfl | rfl <;> exact ⟨[], .inl rfl, rfl⟩
  | append_singleton names name =>
    refine ⟨lead, hlead, ?_⟩
    have hsplit : lead ++ (names ++ [name]).map Step.into =
        (lead ++ names.map .into) ++ [.into name] := by simp
    rw [hsplit, List.dropLast_concat, List.dropLast_concat]
    rcases hlead with rfl | rfl <;> simp

/-- Where there are no names, there is nothing to make. -/
theorem ensureDirectory_of_names_nil (hdisk : v.disk.WellFormed) (ht : v.disk.Direct t)
    (hnames : t.names = []) : v.ensureDirectory t = (v, .ok ()) := by
  rw [ensureDirectory_stay hdisk ht, hnames]
  · rfl
  · intro name hname
    obtain ⟨steps, hsteps⟩ := List.getLast?_eq_some_iff.1 hname
    simp [names_eq_concat hsteps] at hnames

theorem proper_of_mem_names (hp : p.bytes = [] ∨ p.Opens) (hname : name ∈ p.trail.names) :
    name.Proper := by
  obtain ⟨step, hstep, hinto⟩ := List.mem_filterMap.1 hname
  cases step <;> cases hinto
  rcases hp with hempty | hopens
  · rw [Path.trail, hempty] at hstep
    cases hstep
  · exact proper_of_mem_steps hopens.noNul hstep

/-- **Making a path is filling in all its names but the last, and then making the last directory.** -/
theorem ensurePath_eq (hcalm : v.Calm) (hdisk : v.disk.WellFormed) (ht : v.disk.Direct p.trail)
    (hp : p.bytes = [] ∨ p.Opens) :
    v.ensurePath p =
      (v.fill (v.disk.start p.trail) p.trail.names.dropLast).1.ensureDirectory p.trail := by
  unfold ensurePath
  by_cases hempty : p.bytes = []
  · have hnames : p.trail.names = [] := by
      rw [Path.trail, hempty]
      rfl
    rw [if_pos hempty, hnames]
    exact (ensureDirectory_of_names_nil hdisk ht hnames).symm
  have hopens := hp.resolve_left hempty
  rw [if_neg hempty, hopens.open?_eq]
  dsimp only
  by_cases hparts : p.trail.parts = []
  · have hnames : p.trail.names = [] := by
      rw [← namesOf_parts, hparts]
      rfl
    rw [if_pos hparts, hnames]
    exact (ensureDirectory_of_names_nil hdisk ht hnames).symm
  rw [if_neg hparts]
  have hproper : ∀ name ∈ p.trail.names, name.Proper := fun name hname => proper_of_mem_names hp hname
  refine retry_eq hdisk ht hproper
    (fun w => w.ensureParts p.trail.absolute p.trail.parts.dropLast.reverse) fun hbefore => ?_
  obtain ⟨lead, hlead, hback⟩ := reverse_dropLast_parts ht.noUp
  have hfront := direct_front hlead ht (List.dropLast_prefix _)
  have hfill := ensureParts_eq_fill p.trail.absolute hlead p.trail.names.dropLast.reverse hcalm
    hdisk (fun n hn => hproper n (List.dropLast_subset _ (List.mem_reverse.1 hn)))
    (by rw [List.reverse_reverse]; exact hfront) (by rw [List.reverse_reverse]; exact hbefore)
  rw [hback, hfill, List.reverse_reverse]
  rfl

/-- A directory that is there is not made again. -/
theorem ensurePath_of_directory (hcalm : v.Calm) (hdisk : v.disk.WellFormed)
    (ht : v.disk.Direct p.trail) (hp : p.bytes = [] ∨ p.Opens)
    (hdir : v.disk.find? (v.disk.destination p.trail) = some .directory) :
    v.ensurePath p = (v, .ok ()) := by
  rw [destination] at hdir
  have hfront : v.disk.passes (v.disk.start p.trail) p.trail.names.dropLast = .ok () :=
    passes_of_directory hdisk (hdisk.directory_on_way' hdir
      ((List.prefix_append_right_inj _).2 (List.dropLast_prefix _)))
  rw [ensurePath_eq hcalm hdisk ht hp, fill_eq_of_passes (by rw [hfront]; simp)]
  dsimp only
  by_cases hlast : ∃ name, p.trail.steps.getLast? = some (.into name)
  · obtain ⟨name, hname⟩ := hlast
    obtain ⟨steps, hsteps⟩ := List.getLast?_eq_some_iff.1 hname
    have hnames := names_eq_concat hsteps
    rw [hnames, List.dropLast_concat] at hfront
    rw [hnames, ← List.append_assoc] at hdir
    have hlen := (hdisk.valid (by rw [hdir]; simp)).length_le
    rw [ensureDirectory_into hcalm ht hsteps hfront, makeIn, if_neg (Nat.not_lt.2 hlen)]
    simp only [hdir]
  · rw [ensureDirectory_stay hdisk ht (not_exists.1 hlast), passes_of_directory hdisk hdir]

end Volume

end FolderSync
