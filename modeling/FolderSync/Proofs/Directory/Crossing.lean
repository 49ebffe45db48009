import FolderSync.Proofs.Directory.Making
import FolderSync.Proofs.Disk.Folder

/-!
# Directories on the way of a path

Every directory that `Volume.ensurePath` makes is where the first parts of the path lead
(`ensurePath_made`), and where the path led to a directory already, it makes none
(`ensurePath_of_folder`).  So a new directory holds the folder of the path, unless the path goes up
again behind it (`Made.leadsBack`).
-/

namespace FolderSync

namespace Disk

variable {d e f : Disk} {p : Path} {loc dir out : Location} {last : Bool} {links : Nat}
  {steps : List Step}

/-! ### Walks on a disk that has grown -/

/-- A walk that arrives still arrives when missing directories have been made. -/
theorem Grown.walk (h : d.Grown e) (hwalk : d.walk last links loc steps = .ok out) :
    e.walk last links loc steps = .ok out := by
  rw [← hwalk]
  refine walk_congr_of_passed fun l hl => ?_
  rcases h.find? l with hsame | ⟨hnone, -⟩
  · exact hsame
  · exact absurd hnone (find?_ne_none_of_passed hwalk hl)

/-- A walk still looks where it looked before. -/
theorem Grown.mem_passed (h : d.Grown e) {l : Location} (hl : l ∈ d.passed last links loc steps) :
    l ∈ e.passed last links loc steps := by
  induction links, loc, steps using walk_induction with
  | nil links loc => simp at hl
  | stay links loc rest ih => simpa using ih (by simpa using hl)
  | up links loc rest ih => simpa using ih (by simpa using hl)
  | into links loc name rest ih beyond =>
    obtain ⟨hlen, hcases⟩ := mem_passed_into.1 hl
    refine mem_passed_into.2 ⟨hlen, ?_⟩
    rcases hcases with rfl | ⟨hentry, hnext⟩ | ⟨target, more, hentry, hgoes, rfl, hnext⟩
    · exact .inl rfl
    · exact .inr (.inl ⟨h.find?_of_some hentry, ih hnext⟩)
    · exact .inr (.inr ⟨target, more, h.find?_of_some hentry, hgoes, rfl, beyond more rfl _ _ hnext⟩)

theorem Grown.mem_way (h : d.Grown e) {l : Location} (hl : l ∈ d.way p) : l ∈ e.way p := by
  rw [way, h.start_eq]
  exact h.mem_passed hl

/-- Where nothing stood, a walk that never goes up stays below. -/
theorem Grown.prefix_of_walk (hdisk : d.WellFormed) (h : d.Grown e) (hnone : d.find? loc = none)
    (hup : Step.up ∉ steps) (hwalk : e.walk last links loc steps = .ok out) : loc <+: out := by
  induction steps generalizing loc with
  | nil =>
    rw [walk_nil] at hwalk
    exact Except.ok.inj hwalk ▸ List.prefix_rfl
  | cons step rest ih =>
    have hrest : Step.up ∉ rest := fun hmem => hup (List.mem_cons_of_mem _ hmem)
    cases step with
    | stay =>
      rw [walk_cons_stay] at hwalk
      exact ih hnone hrest hwalk
    | up => exact absurd List.mem_cons_self hup
    | into name =>
      -- below a place where nothing stood, only directories have been made
      have hbelow : d.find? (loc ++ [name]) = none := by
        by_contra hsome
        rw [hdisk.parent hsome] at hnone
        cases hnone
      have hentry : e.find? (loc ++ [name]) = none ∨ e.find? (loc ++ [name]) = some .directory := by
        rcases h.find? (loc ++ [name]) with hsame | ⟨-, hmade⟩
        · exact .inl (hsame.trans hbelow)
        · exact .inr hmade
      obtain ⟨-, hgoing⟩ := going_of_walk hwalk
      cases hgoing with
      | enter _ hnext => exact (List.prefix_append _ _).trans (ih hbelow hrest hnext)
      | arrive hfile _ _ => simp [hfile] at hentry
      | keep hlink _ _ _ => simp [hlink] at hentry
      | follow hlink _ _ _ => simp [hlink] at hentry

/-- On the way to a directory, trails that differ in steps that stay are the same. -/
theorem walk_congr_filter {other : List Step}
    (h : other.filter (· ≠ .stay) = steps.filter (· ≠ .stay)) :
    d.walk true links loc (other ++ [.stay]) = d.walk true links loc (steps ++ [.stay]) := by
  have hfilter : ∀ some : List Step, d.walk true links loc (some.filter (· ≠ .stay) ++ [.stay]) =
      d.walk true links loc (some ++ [.stay]) := walk_filter_stay []
  rw [← hfilter, h, hfilter]

/-! ### What making a path makes -/

/-- The first parts of a path lead to a place, and of those behind them one goes up. -/
def LeadsBack (d : Disk) (p : Path) (loc : Location) : Prop :=
  ∃ front back, p.parts = front ++ back ∧
    d.walk true linkLimit (d.start p.trail) (front ++ [.stay]) = .ok loc ∧ Step.up ∈ back

/-- It does as well on a disk where more stands. -/
theorem LeadsBack.congr (h : d.LeadsBack p loc) (hhere : e.here = d.here)
    (hfind : ∀ l, d.find? l ≠ none → e.find? l = d.find? l) : e.LeadsBack p loc := by
  obtain ⟨front, back, hparts, hwalk, hup⟩ := h
  refine ⟨front, back, hparts, ?_, hup⟩
  rw [start_of_here hhere, walk_congr_of_passed fun l hl => hfind l (find?_ne_none_of_passed hwalk hl), hwalk]

/-- Missing directories have been made, each where the first parts of the path lead. -/
structure Made (p : Path) (d e : Disk) : Prop extends d.Grown e where
  onPath : ∀ loc, d.find? loc = none → e.find? loc = some .directory → ∃ front, front <+: p.parts ∧
    e.walk true linkLimit (e.start p.trail) (front ++ [.stay]) = .ok loc

theorem Made.refl (p : Path) (h : d.WellFormed) : Made p d d := by
  refine ⟨.refl h, fun loc hnone hmade => ?_⟩
  rw [hnone] at hmade
  cases hmade

theorem Made.trans (h : Made p d e) (g : Made p e f) : Made p d f := by
  refine ⟨h.toGrown.trans g.toGrown, fun loc hnone hmade => ?_⟩
  rcases h.find? loc with hsame | ⟨-, hfirst⟩
  · exact g.onPath loc (hsame.trans hnone) hmade
  · obtain ⟨front, hfront, hwalk⟩ := h.onPath loc hnone hfirst
    refine ⟨front, hfront, ?_⟩
    rw [g.start_eq]
    exact g.walk hwalk

/-- A disk that shows the same is as good. -/
theorem Made.congr (h : Made p d e) (hsame : f.Same e) : Made p d f := by
  have hwell : f.WellFormed := by
    refine ⟨fun hname => ?_, fun hname => ?_, ?_, fun q hq => ?_⟩
    · rw [hsame.find?] at hname ⊢
      exact h.wellFormed.parent hname
    · rw [hsame.find?] at hname
      exact h.wellFormed.valid hname
    · rw [hsame.find?, hsame.here]
      exact h.wellFormed.here
    · rw [hsame.find?]
      exact h.wellFormed.closed q (hsame.closed ▸ hq)
  refine h.trans ⟨⟨hwell, hsame.here, fun loc => .inl (hsame.find? loc)⟩, fun loc hnone hmade => ?_⟩
  rw [hsame.find?, hnone] at hmade
  cases hmade

/-- **A new directory in the folder of the path was made on the way there,** from which the path goes
up again. -/
theorem Made.leadsBack (hdisk : d.WellFormed) (h : Made p d e) (hfolder : e.folder p = .ok dir)
    {name : Name} (hnone : d.find? (dir ++ [name]) = none)
    (hmade : e.find? (dir ++ [name]) = some .directory) : e.LeadsBack p (dir ++ [name]) := by
  obtain ⟨front, ⟨back, hparts⟩, hwalk⟩ := h.onPath _ hnone hmade
  refine ⟨front, back, hparts.symm, hwalk, ?_⟩
  by_contra hup
  have hall : e.walk true linkLimit (e.start p.trail) (front ++ (back ++ [.stay])) = .ok dir := by
    rw [← List.append_assoc, hparts, ← hfolder, Disk.folder]
    exact walk_congr_filter (filter_parts p.trail)
  obtain ⟨links, -, hbehind⟩ := walk_append hwalk
  have hup' : Step.up ∉ back ++ [Step.stay] := by simpa using hup
  have hbelow := h.prefix_of_walk hdisk hnone hup' ((hbehind _ (by simp) true).symm.trans hall)
  have hlength := hbelow.length_le
  rw [List.length_append, List.length_singleton] at hlength
  omega

end Disk

namespace Volume

variable {v w : Volume} {p : Path} {t : Trail} {dir : Location}

/-- A directory that is made for the first parts of a path is where they lead. -/
theorem makeDirectory_made (hdisk : v.disk.WellFormed) (ht : t.Begins p.trail)
    (hproper : ∀ name, .into name ∈ t.steps → name.Proper) (h : v.makeDirectory t = (w, .ok ())) :
    Disk.Made p v.disk w.disk := by
  have hgrown := makeDirectory_grown hdisk hproper h
  refine ⟨hgrown, fun loc hnone hmade => ?_⟩
  obtain ⟨steps, name, parent, hsteps, hlen, hwalk, hfresh, hmakes⟩ := makeDirectory_eq_ok h
  have hview : w.disk = (v.perform (.makeDirectory (parent ++ [name]))).disk := hmakes.disk_apply
  have hloc : loc = parent ++ [name] := by
    by_contra hne
    rw [hview, find?_makeDirectory, if_neg hne, hnone] at hmade
    cases hmade
  subst hloc
  obtain ⟨front, hfront, hfilter⟩ := ht.parts
  refine ⟨front, hfront, ?_⟩
  -- the steps before the name lead to the parent as before, and then into the new directory
  obtain ⟨links, -, hbehind⟩ := Disk.walk_append (hgrown.walk hwalk)
  rw [← Disk.walk_congr_filter hfilter, hgrown.start_eq, hsteps, List.append_assoc,
    ← Disk.start_congr ht.absolute]
  exact (hbehind _ (by simp) true).trans ((Disk.walk_enter hlen hmade _).trans (by simp))

theorem ensureDirectory_made (hdisk : v.disk.WellFormed) (ht : t.Begins p.trail)
    (hproper : ∀ name, .into name ∈ t.steps → name.Proper) :
    Disk.Made p v.disk (v.ensureDirectory t).1.disk := by
  unfold ensureDirectory
  cases hmake : v.makeDirectory t with
  | mk w result =>
    cases result with
    | ok _ => exact makeDirectory_made hdisk ht hproper hmake
    | error cause =>
      have hsame := (makeDirectory_eq_error hmake).1.disk_eq
      dsimp only
      split <;> exact hsame.symm ▸ .refl p hdisk

/-- **Making a path makes missing directories where its first parts lead.** -/
theorem ensurePath_made (hdisk : v.disk.WellFormed) (p : Path) :
    Disk.Made p v.disk (v.ensurePath p).1.disk :=
  ensurePath_keeps (.refl p) .trans (fun h => h.wellFormed) ensureDirectory_made hdisk

/-- Where a path leads to a directory, none is made. -/
theorem ensureDirectory_of_folder (hdisk : v.disk.WellFormed) (h : v.disk.folder p = .ok dir) :
    v.ensureDirectory p.trail = (v, .ok ()) := by
  have hleads : v.leadsToDirectory p.trail = true := by
    simp [leadsToDirectory, Disk.follow_of_folder h, Disk.directory_of_folder hdisk h]
  unfold ensureDirectory
  rcases v.makeDirectory_cases p.trail with
    ⟨cause, hfailed⟩ | ⟨steps, name, parent, hsteps, hlen, hwalk, hfresh, -⟩
  · rw [hfailed]
    dsimp only
    rw [if_pos hleads]
  · -- the walk to the folder goes into the name, where nothing stands
    rw [Disk.folder, hsteps, List.append_assoc] at h
    obtain ⟨links, -, hbehind⟩ := Disk.walk_append hwalk
    rw [hbehind _ (by simp)] at h
    have hsome := Disk.find?_ne_none_of_passed h (Disk.mem_passed_into.2 ⟨hlen, .inl rfl⟩)
    exact absurd hfresh hsome

theorem ensurePath_of_folder (hdisk : v.disk.WellFormed) (h : v.disk.folder p = .ok dir) :
    (v.ensurePath p).1 = v := by
  unfold ensurePath
  split_ifs
  · rfl
  · split
    · rfl
    · rename_i t hopen
      obtain ⟨-, rfl⟩ := Path.open?_eq_ok_iff.1 hopen
      rw [ensureDirectory_of_folder hdisk h]
      split <;> rfl

/-- Where the path is accepted, that is a success. -/
theorem ensurePath_eq_of_folder (hdisk : v.disk.WellFormed) (h : v.disk.folder p = .ok dir)
    (hopens : p.Opens) : v.ensurePath p = (v, .ok ()) := by
  unfold ensurePath
  rw [if_neg hopens.ne_nil, hopens.open?_eq]
  dsimp only
  rw [ensureDirectory_of_folder hdisk h]
  split <;> rfl

end Volume

end FolderSync
