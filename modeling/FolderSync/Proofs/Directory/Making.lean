import FolderSync.Proofs.Directory.Progress

/-!
# Making the directory

`Volume.ensurePath` makes the directory at the end of a direct path and those that are missing on the
way: every change it makes is a step toward the directory (`Moment.Leads`), and when it succeeds the
directory is there (`ensurePath_leads`).

* `Direct.on_way`: the first steps of a direct trail are direct.
* `ensureDirectory_leads`: one directory.  `ensurePath_rel`: what is kept by making one directory after
  the other is kept by making a path.
* `Disk.Grown`: missing directories have been made, and nothing else.  On any way `ensurePath` does no
  more than that (`ensurePath_grown`).
-/

namespace FolderSync

/-! ### Parts of a trail -/

section Parts

variable {d : Disk} {t u : Trail}

theorem namesOf_filter_stay (steps : List Step) :
    namesOf (steps.filter (· ≠ .stay)) = namesOf steps := by
  induction steps with
  | nil => rfl
  | cons step rest ih =>
    cases step with
    | stay => rw [List.filter_cons_of_neg (by simp), ih, namesOf_cons_stay]
    | up => rw [List.filter_cons_of_pos (by simp), namesOf_cons_up, ih, namesOf_cons_up]
    | into name => rw [List.filter_cons_of_pos (by simp), namesOf_cons_into, ih, namesOf_cons_into]

/-- The parts of a trail go into the same names. -/
theorem namesOf_parts (t : Trail) : namesOf t.parts = t.names := by
  unfold Trail.parts Trail.names
  split
  · rename_i rest hsteps
    rw [hsteps, namesOf_cons_stay, namesOf_cons_stay, namesOf_filter_stay]
  · exact namesOf_filter_stay _

theorem mem_steps_of_mem_parts {step : Step} (h : step ∈ t.parts) : step ∈ t.steps := by
  unfold Trail.parts at h
  split at h
  · rename_i rest hsteps
    rw [hsteps]
    rcases List.mem_cons.1 h with rfl | h
    · exact List.mem_cons_self
    · exact List.mem_cons_of_mem _ ((List.mem_filter.1 h).1)
  · exact (List.mem_filter.1 h).1

theorem filter_parts (t : Trail) : t.parts.filter (· ≠ .stay) = t.steps.filter (· ≠ .stay) := by
  unfold Trail.parts
  split
  · rename_i rest hsteps
    rw [hsteps, List.filter_cons_of_neg (by simp), List.filter_cons_of_neg (by simp),
      List.filter_filter]
    simp
  · rw [List.filter_filter]
    simp

/-- The trail takes the first parts of another. -/
structure Trail.Begins (u t : Trail) : Prop where
  absolute : u.absolute = t.absolute
  parts : ∃ front, front <+: t.parts ∧ u.steps.filter (· ≠ .stay) = front.filter (· ≠ .stay)

theorem Trail.Begins.refl (t : Trail) : t.Begins t := ⟨rfl, t.parts, List.prefix_rfl, (filter_parts t).symm⟩

theorem Trail.Begins.mem_steps (h : u.Begins t) {step : Step} (hstep : step ∈ u.steps)
    (hne : step ≠ .stay) : step ∈ t.steps := by
  obtain ⟨front, hfront, hfilter⟩ := h.parts
  have hmem : step ∈ front.filter (· ≠ .stay) := hfilter ▸ List.mem_filter.2 ⟨hstep, by simpa using hne⟩
  exact mem_steps_of_mem_parts (hfront.subset (List.mem_filter.1 hmem).1)

theorem Trail.Begins.names_prefix (h : u.Begins t) : u.names <+: t.names := by
  obtain ⟨front, hfront, hfilter⟩ := h.parts
  rw [← namesOf_parts t, Trail.names, ← namesOf_filter_stay u.steps, hfilter, namesOf_filter_stay]
  exact hfront.filterMap _

namespace Disk

theorem start_congr (h : u.absolute = t.absolute) : d.start u = d.start t := by
  rw [start, start, h]

/-- The first steps of a direct trail are direct, and lead to a place on the way. -/
theorem Direct.on_way (h : d.Direct t) (habs : u.absolute = t.absolute)
    (hup : Step.up ∉ u.steps) (hnames : u.names <+: t.names) :
    d.Direct u ∧ d.destination u <+: d.destination t := by
  rw [destination, destination, start_congr habs]
  refine ⟨⟨hup, fun front hfront target => ?_⟩, (List.prefix_append_right_inj _).2 hnames⟩
  rw [start_congr habs]
  exact h.noLink front (hfront.trans hnames) target

end Disk

end Parts

/-! ### Making one directory -/

namespace Volume

open Moment Progress

variable {dir : Location} {start : Disk} {v : Volume} {log : List (String × Bytes)} {t : Trail}

/-- Making a directory on the way is one step toward it. -/
theorem makeDirectory_leads (h : Since dir start ⟨v.disk, none, log⟩) (ht : start.Direct t)
    (hdest : start.destination t <+: dir) (hproper : ∀ name, .into name ∈ t.steps → name.Proper)
    {w : Volume} (hw : v.makeDirectory t = (w, .ok ())) :
    Leads dir ⟨v, none, log⟩ ⟨w, none, log⟩ ∧
      w.disk.find? (start.destination t) = some .directory := by
  obtain ⟨steps, name, parent, hsteps, hlen, hwalk, hfresh, hmakes⟩ := makeDirectory_eq_ok hw
  have hmem : .into name ∈ t.steps := hsteps ▸ List.mem_append_right _ List.mem_cons_self
  have hparent : v.disk.find? parent = some .directory :=
    Disk.directory_of_walk_stay h.wellFormed (h.wellFormed.find?_start t) hwalk
  have hloc : start.destination t = parent ++ [name] := by
    rw [(h.direct ht hdest).eq_destination hsteps hwalk, h.destination_eq]
  constructor
  · exact .of_makes hmakes
      (.makeDirectory rfl (hloc ▸ hdest) ⟨hproper name hmem, hlen⟩ hparent hfresh)
  · rw [hmakes.disk_apply, Change.apply, Disk.find?_put (by simp), if_pos hloc]

theorem directory_of_leadsToDirectory (h : Since dir start ⟨v.disk, none, log⟩)
    (ht : start.Direct t) (hdest : start.destination t <+: dir) (hv : v.leadsToDirectory t = true) :
    v.disk.find? (start.destination t) = some .directory := by
  unfold leadsToDirectory at hv
  cases hfollow : v.disk.follow true t with
  | error cause => simp [hfollow] at hv
  | ok loc =>
    have hloc := Disk.eq_of_follow (h.direct ht hdest) hfollow
    rw [h.destination_eq] at hloc
    rw [← hloc]
    simpa [hfollow] using hv

theorem ensureDirectory_leads (h : Since dir start ⟨v.disk, none, log⟩) (ht : start.Direct t)
    (hdest : start.destination t <+: dir) (hproper : ∀ name, .into name ∈ t.steps → name.Proper) :
    Leads dir ⟨v, none, log⟩ ⟨(v.ensureDirectory t).1, none, log⟩ ∧
      ((v.ensureDirectory t).2 = .ok () →
        (v.ensureDirectory t).1.disk.find? (start.destination t) = some .directory) := by
  unfold ensureDirectory
  cases hmake : v.makeDirectory t with
  | mk w result =>
    cases result with
    | ok _ =>
      obtain ⟨hleads, hdir⟩ := makeDirectory_leads h ht hdest hproper hmake
      exact ⟨hleads, fun _ => hdir⟩
    | error cause =>
      have hleads : Leads dir ⟨v, none, log⟩ ⟨w, none, log⟩ :=
        .of_unchanged (makeDirectory_eq_error hmake).1 none log
      dsimp only
      split
      · rename_i hw
        exact ⟨hleads, fun _ => directory_of_leadsToDirectory (hleads.since h) ht hdest hw⟩
      · exact ⟨hleads, fun hok => by cases hok⟩

/-! ### Making a path -/

section Relations

variable {R : Volume → Volume → Prop} (hrefl : ∀ v, R v v)
  (htrans : ∀ {u v w}, R u v → R v w → R u w)

include hrefl htrans

/-- Making a directory, and if something is missing on the way making that first: a relation between
volumes that is kept by the parts is kept by the whole, and success is that of the last part. -/
theorem retry_rel {missing : Volume → Volume × Except Cause Unit} {result : Volume × Except Cause Unit}
    (hone : ∀ v, R v (v.ensureDirectory t).1) (hmissing : ∀ v, R v (missing v).1)
    (hresult : (match v.ensureDirectory t with
      | (w, .error .notFound) =>
        match missing w with
        | (x, .error cause) => (x, .error cause)
        | (x, .ok ()) => x.ensureDirectory t
      | done => done) = result) :
    R v result.1 ∧ (result.2 = .ok () → ∃ w, R v w ∧ result = w.ensureDirectory t) := by
  split at hresult
  · rename_i w hw
    have hfirst := hone v
    rw [hw] at hfirst
    have hsecond := htrans hfirst (hmissing w)
    split at hresult
    · rename_i x cause hx
      rw [hx] at hsecond
      rw [← hresult]
      exact ⟨hsecond, fun hok => by cases hok⟩
    · rename_i x hx
      rw [hx] at hsecond
      rw [← hresult]
      exact ⟨htrans hsecond (hone x), fun _ => ⟨x, hsecond, rfl⟩⟩
  · rw [← hresult]
    exact ⟨hone v, fun _ => ⟨v, hrefl v, rfl⟩⟩

/-- What is kept by making any single directory on the way is kept by making all that are missing. -/
theorem ensureParts_rel (absolute : Bool) (parts : List Step)
    (hone : ∀ back, back <:+ parts → ∀ v, R v (v.ensureDirectory ⟨absolute, back.reverse, false⟩).1)
    (v : Volume) : R v (v.ensureParts absolute parts).1 := by
  induction parts generalizing v with
  | nil => exact hrefl v
  | cons last before ih =>
    have hbefore := ih fun back hback => hone back (hback.trans (List.suffix_cons _ _))
    exact (retry_rel hrefl htrans (hone _ List.suffix_rfl) hbefore rfl).1

/-- The same of making a path; if it succeeds and the path goes into names, the last directory was
made at last. -/
theorem ensurePath_rel {p : Path} (v : Volume)
    (hone : p.Opens → ∀ u : Trail, u.Begins p.trail → ∀ v, R v (v.ensureDirectory u).1) :
    R v (v.ensurePath p).1 ∧ ((v.ensurePath p).2 = .ok () →
      ((v.ensurePath p).1 = v ∧ p.trail.names = []) ∨
        p.Opens ∧ ∃ w, R v w ∧ v.ensurePath p = w.ensureDirectory p.trail) := by
  unfold ensurePath
  by_cases hempty : p.bytes = []
  · rw [if_pos hempty]
    refine ⟨hrefl v, fun _ => .inl ⟨rfl, ?_⟩⟩
    rw [Path.trail, hempty]
    rfl
  rw [if_neg hempty]
  cases hopen : p.open? with
  | error cause => exact ⟨hrefl v, fun hok => by cases hok⟩
  | ok t =>
    obtain ⟨hopens, rfl⟩ := Path.open?_eq_ok_iff.1 hopen
    dsimp only
    by_cases hparts : p.trail.parts = []
    · rw [if_pos hparts]
      refine ⟨hrefl v, fun _ => .inl ⟨rfl, ?_⟩⟩
      rw [← namesOf_parts, hparts]
      rfl
    rw [if_neg hparts]
    have hmissing := ensureParts_rel hrefl htrans p.trail.absolute p.trail.parts.dropLast.reverse
      fun back hback => by
        -- the parts are in reverse, so the end of them is the front of the trail
        have hfront : back.reverse <+: p.trail.parts := by
          rw [← List.reverse_suffix, List.reverse_reverse]
          exact hback.trans (List.reverse_suffix.2 (List.dropLast_prefix _))
        exact hone hopens ⟨p.trail.absolute, back.reverse, false⟩ ⟨rfl, back.reverse, hfront, rfl⟩
    obtain ⟨hall, hlast⟩ := retry_rel hrefl htrans (hone hopens p.trail (.refl _)) hmissing rfl
    exact ⟨hall, fun hok => .inr ⟨hopens, hlast hok⟩⟩

end Relations

/-- **Making a directory and all that are missing on the way.** -/
theorem ensurePath_leads {p : Path} (h : Since dir start ⟨v.disk, none, log⟩)
    (hdirect : start.Direct p.trail) (hdir : start.destination p.trail = dir) :
    Leads dir ⟨v, none, log⟩ ⟨(v.ensurePath p).1, none, log⟩ ∧
      ((v.ensurePath p).2 = .ok () → (v.ensurePath p).1.disk.find? dir = some .directory) := by
  let R : Volume → Volume → Prop := fun v w =>
    Since dir start ⟨v.disk, none, log⟩ → Leads dir ⟨v, none, log⟩ ⟨w, none, log⟩
  have hrefl : ∀ v, R v v := fun v _ => .refl _
  have htrans : ∀ {u v w}, R u v → R v w → R u w := fun hfirst hsecond hu =>
    (hfirst hu).trans (hsecond ((hfirst hu).since hu))
  have hone : p.Opens → ∀ u : Trail, u.Begins p.trail → ∀ v, R v (v.ensureDirectory u).1 := by
    intro hopens u hbegins v hv
    have hup : Step.up ∉ u.steps := fun hup => hdirect.noUp (hbegins.mem_steps hup (by simp))
    obtain ⟨hu, hdest⟩ := hdirect.on_way hbegins.absolute hup hbegins.names_prefix
    exact (ensureDirectory_leads hv hu (hdir ▸ hdest) fun name hname =>
      proper_of_mem_steps hopens.noNul (hbegins.mem_steps hname (by simp))).1
  obtain ⟨hall, hlast⟩ := ensurePath_rel hrefl htrans v hone
  refine ⟨hall h, fun hok => ?_⟩
  rcases hlast hok with ⟨hstays, hnames⟩ | ⟨hopens, w, hw, hmade⟩
  · -- without names to go into, the directory is where the path starts
    rw [hstays, ← hdir, Disk.destination, hnames, List.append_nil, ← h.start_eq]
    exact h.wellFormed.find?_start _
  · have hdirectory := (ensureDirectory_leads ((hw h).since h) hdirect (hdir ▸ List.prefix_rfl)
      fun name hname => proper_of_mem_steps hopens.noNul hname).2
    rw [hmade] at hok ⊢
    exact hdir ▸ hdirectory hok

end Volume

/-! ### Making directories anywhere -/

/-- Missing directories have been made, and nothing else. -/
structure Disk.Grown (d e : Disk) : Prop where
  wellFormed : e.WellFormed
  here : e.here = d.here
  find? : ∀ loc, e.find? loc = d.find? loc ∨ (d.find? loc = none ∧ e.find? loc = some .directory)

theorem Disk.Grown.refl {d : Disk} (h : d.WellFormed) : d.Grown d := ⟨h, rfl, fun _ => .inl rfl⟩

theorem Disk.Grown.trans {d e f : Disk} (h : d.Grown e) (g : e.Grown f) : d.Grown f := by
  refine ⟨g.wellFormed, g.here.trans h.here, fun loc => ?_⟩
  rcases g.find? loc with hsame | ⟨hnone, hmade⟩
  · rw [hsame]
    exact h.find? loc
  · rcases h.find? loc with hsame | ⟨-, hmade'⟩
    · exact .inr ⟨hsame ▸ hnone, hmade⟩
    · rw [hnone] at hmade'
      cases hmade'

/-- What stood before still stands. -/
theorem Disk.Grown.find?_of_some {d e : Disk} (h : d.Grown e) {loc : Location} {entry : Entry}
    (hentry : d.find? loc = some entry) : e.find? loc = some entry := by
  rcases h.find? loc with hsame | ⟨hnone, -⟩
  · exact hsame.trans hentry
  · rw [hnone] at hentry
    cases hentry

theorem Disk.Grown.start_eq {d e : Disk} (h : d.Grown e) (t : Trail) : e.start t = d.start t :=
  start_of_here h.here t

/-- Where no link was there is none now. -/
theorem Disk.Grown.direct {d e : Disk} {t : Trail} (h : d.Grown e) (ht : d.Direct t) : e.Direct t := by
  refine ⟨ht.noUp, fun front hfront target hlink => ?_⟩
  rw [h.start_eq] at hlink
  rcases h.find? (d.start t ++ front) with hsame | ⟨-, hmade⟩
  · exact ht.noLink front hfront target (hsame ▸ hlink)
  · rw [hmade] at hlink
    cases hlink

namespace Volume

variable {v w : Volume} {t : Trail}

theorem find?_makeDirectory (v : Volume) (loc : Location) (name : Name) (other : Location) :
    (v.perform (.makeDirectory (loc ++ [name]))).disk.find? other =
      if other = loc ++ [name] then some .directory else v.disk.find? other :=
  Disk.find?_put (by simp) .directory other

theorem find?_makeDirectory_self (v : Volume) (loc : Location) (name : Name) :
    (v.perform (.makeDirectory (loc ++ [name]))).disk.find? (loc ++ [name]) = some .directory := by
  rw [find?_makeDirectory, if_pos rfl]

/-- One directory more, under a name that was free. -/
theorem perform_makeDirectory_grown {loc : Location} {name : Name} (hdisk : v.disk.WellFormed)
    (hdir : v.disk.find? loc = some .directory) (hvalid : name.Valid)
    (hfresh : v.disk.find? (loc ++ [name]) = none) :
    v.disk.Grown (v.perform (.makeDirectory (loc ++ [name]))).disk := by
  refine ⟨hdisk.put hdir hvalid fun _ => rfl, rfl, fun other => ?_⟩
  rw [find?_makeDirectory]
  split
  · rename_i hother
    exact .inr ⟨hother ▸ hfresh, rfl⟩
  · exact .inl rfl

theorem makeDirectory_grown (hdisk : v.disk.WellFormed)
    (hproper : ∀ name, .into name ∈ t.steps → name.Proper) (h : v.makeDirectory t = (w, .ok ())) :
    v.disk.Grown w.disk := by
  obtain ⟨steps, name, parent, ht, hlen, hwalk, hfresh, hmakes⟩ := makeDirectory_eq_ok h
  have hdir := Disk.directory_of_walk_stay hdisk (hdisk.find?_start t) hwalk
  have hname := hproper name (ht ▸ List.mem_append_right _ List.mem_cons_self)
  rw [hmakes.disk_apply]
  exact perform_makeDirectory_grown hdisk hdir ⟨hname, hlen⟩ hfresh

theorem ensureDirectory_grown (hdisk : v.disk.WellFormed)
    (hproper : ∀ name, .into name ∈ t.steps → name.Proper) :
    v.disk.Grown (v.ensureDirectory t).1.disk := by
  unfold ensureDirectory
  cases hmake : v.makeDirectory t with
  | mk w result =>
    cases result with
    | ok _ => exact makeDirectory_grown hdisk hproper hmake
    | error cause =>
      have hsame := (makeDirectory_eq_error hmake).1.disk_eq
      dsimp only
      split <;> exact hsame.symm ▸ .refl hdisk

/-- What making a directory keeps on well-formed disks, making a path keeps. -/
theorem ensurePath_keeps {p : Path} {S : Disk → Disk → Prop} (hrefl : ∀ {d}, d.WellFormed → S d d)
    (htrans : ∀ {c d e}, S c d → S d e → S c e) (hformed : ∀ {d e}, S d e → e.WellFormed)
    (hone : ∀ {v : Volume} {u : Trail}, v.disk.WellFormed → u.Begins p.trail →
      (∀ name, .into name ∈ u.steps → name.Proper) → S v.disk (v.ensureDirectory u).1.disk)
    (hdisk : v.disk.WellFormed) : S v.disk (v.ensurePath p).1.disk := by
  let R : Volume → Volume → Prop := fun v w => v.disk.WellFormed → S v.disk w.disk
  have hreflR : ∀ v, R v v := fun v hv => hrefl hv
  have htransR : ∀ {u v w}, R u v → R v w → R u w := fun hfirst hsecond hu =>
    htrans (hfirst hu) (hsecond (hformed (hfirst hu)))
  refine (ensurePath_rel hreflR htransR v ?_).1 hdisk
  intro hopens u hbegins w hw
  exact hone hw hbegins fun name hname =>
    proper_of_mem_steps hopens.noNul (hbegins.mem_steps hname (by simp))

/-- **Making a path makes missing directories, and nothing else.** -/
theorem ensurePath_grown (hdisk : v.disk.WellFormed) (p : Path) :
    v.disk.Grown (v.ensurePath p).1.disk :=
  ensurePath_keeps .refl .trans Disk.Grown.wellFormed
    (fun hv _ hproper => ensureDirectory_grown hv hproper) hdisk

end Volume

end FolderSync
