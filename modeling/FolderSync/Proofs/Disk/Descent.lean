import FolderSync.Proofs.Disk.Direct

/-!
# Going down

On a direct way everything is settled by names: a walk goes down from one to the next (`Disk.descend`,
`walk_eq_descend`), and what a direct trail leads to and where it would make an entry can be read off
how far one can go down.

* `descend_append`: going down in two parts.  `Disk.passes`: whether one can go down, or why not.
* `passes_of_directory`: where a directory stands one can go down.
* `Direct.slot_into`, `Direct.slot_stay` and `Direct.follow_into`, `Direct.follow_stay`: trails that end
  in a name, and those that do not.
-/

namespace FolderSync.Disk

/-- Goes down from a directory, name by name. -/
def descend (d : Disk) (loc : Location) : List Name → Except Cause Location
  | [] => .ok loc
  | name :: rest =>
    if nameLimit < name.length then .error .nameTooLong
    else match d.find? (loc ++ [name]) with
      | none => .error .notFound
      | some .directory => d.descend (loc ++ [name]) rest
      | some _ => .error .notADirectory

variable {d e : Disk} {loc out : Location} {last : Bool} {links : Nat} {names : List Name}
  {name : Name} {steps rest : List Step} {t : Trail}

@[simp] theorem descend_nil (d : Disk) (loc : Location) : d.descend loc [] = .ok loc := rfl

theorem descend_append (d : Disk) (loc : Location) (front back : List Name) :
    d.descend loc (front ++ back) =
      match d.descend loc front with
      | .error cause => .error cause
      | .ok mid => d.descend mid back := by
  induction front generalizing loc with
  | nil => rfl
  | cons name front ih =>
    rw [List.cons_append, descend, descend]
    by_cases hlen : nameLimit < name.length
    · simp only [if_pos hlen]
    · simp only [if_neg hlen]
      cases d.find? (loc ++ [name]) with
      | none => rfl
      | some entry =>
        cases entry with
        | directory => exact ih _
        | file c => rfl
        | link target => rfl

theorem eq_of_descend (h : d.descend loc names = .ok out) : out = loc ++ names := by
  induction names generalizing loc with
  | nil => simpa using (Except.ok.inj h).symm
  | cons name names ih =>
    rw [descend] at h
    split at h
    · cases h
    · split at h
      · cases h
      · rw [ih h]
        simp
      · cases h

/-- Can one go down, and if not, why? -/
def passes (d : Disk) (loc : Location) (names : List Name) : Except Cause Unit :=
  match d.descend loc names with
  | .error cause => .error cause
  | .ok _ => .ok ()

theorem passes_eq_ok_iff : d.passes loc names = .ok () ↔ d.descend loc names = .ok (loc ++ names) := by
  unfold passes
  cases h : d.descend loc names with
  | error cause => simp
  | ok out => simp [eq_of_descend h]

theorem passes_eq_error_iff {cause : Cause} :
    d.passes loc names = .error cause ↔ d.descend loc names = .error cause := by
  unfold passes
  cases d.descend loc names <;> simp

theorem passes_append (d : Disk) (loc : Location) (front back : List Name) :
    d.passes loc (front ++ back) =
      match d.passes loc front with
      | .error cause => .error cause
      | .ok () => d.passes (loc ++ front) back := by
  cases h : d.passes loc front with
  | error cause =>
    rw [passes_eq_error_iff] at h
    rw [passes, descend_append, h]
  | ok _ =>
    rw [passes_eq_ok_iff] at h
    rw [passes, descend_append, h]
    rfl

theorem passes_singleton (d : Disk) (loc : Location) (name : Name) :
    d.passes loc [name] =
      if nameLimit < name.length then .error .nameTooLong
      else match d.find? (loc ++ [name]) with
        | none => .error .notFound
        | some .directory => .ok ()
        | some _ => .error .notADirectory := by
  rw [passes, descend]
  by_cases hlen : nameLimit < name.length
  · simp only [if_pos hlen]
  · simp only [if_neg hlen]
    cases d.find? (loc ++ [name]) with
    | none => rfl
    | some entry => cases entry <;> rfl

/-- Whoever goes down ends in a directory. -/
theorem directory_of_descend (hloc : d.find? loc = some .directory)
    (h : d.descend loc names = .ok out) : d.find? out = some .directory := by
  induction names generalizing loc with
  | nil => exact Except.ok.inj h ▸ hloc
  | cons name names ih =>
    rw [descend] at h
    split at h
    · cases h
    · split at h
      · cases h
      · rename_i hdir
        exact ih hdir h
      · cases h

/-- Where a directory stands one can go down. -/
theorem passes_of_directory (hdisk : d.WellFormed)
    (hdir : d.find? (loc ++ names) = some .directory) : d.passes loc names = .ok () := by
  rw [passes_eq_ok_iff]
  induction names generalizing loc with
  | nil => simp
  | cons name names ih =>
    have hsplit : loc ++ name :: names = (loc ++ [name]) ++ names := by simp
    rw [hsplit] at hdir ⊢
    have hname : d.find? (loc ++ [name]) = some .directory :=
      hdisk.directory_on_way' hdir (List.prefix_append _ _)
    have hlen : ¬ nameLimit < name.length :=
      Nat.not_lt.2 (hdisk.valid (by rw [hname]; simp)).length_le
    rw [descend, if_neg hlen]
    simp only [hname]
    exact ih hdir

/-- Disks that agree on the way can be descended alike. -/
theorem passes_congr (h : ∀ l, l <+: loc ++ names → e.find? l = d.find? l) :
    e.passes loc names = d.passes loc names := by
  unfold passes
  induction names generalizing loc with
  | nil => rfl
  | cons name names ih =>
    have hsplit : loc ++ name :: names = (loc ++ [name]) ++ names := by simp
    rw [hsplit] at h
    rw [descend, descend, h _ (List.prefix_append _ _)]
    by_cases hlen : nameLimit < name.length
    · simp only [if_pos hlen]
    · simp only [if_neg hlen]
      cases d.find? (loc ++ [name]) with
      | none => rfl
      | some entry =>
        cases entry with
        | directory => exact ih h
        | file c => rfl
        | link target => rfl

/-- On a direct way a walk descends. -/
theorem walk_eq_descend (hup : Step.up ∉ steps)
    (hlink : ∀ front, front <+: namesOf steps → ∀ target, d.find? (loc ++ front) ≠ some (.link target))
    (hrest : rest ≠ []) :
    d.walk last links loc (steps ++ rest) =
      match d.descend loc (namesOf steps) with
      | .error cause => .error cause
      | .ok mid => d.walk last links mid rest := by
  induction steps generalizing loc with
  | nil => rfl
  | cons step steps ih =>
    have hsteps : Step.up ∉ steps := fun hm => hup (List.mem_cons_of_mem _ hm)
    cases step with
    | stay => simpa using ih hsteps hlink
    | up => exact absurd List.mem_cons_self hup
    | into name =>
      have hone : [name] <+: namesOf (.into name :: steps) :=
        List.cons_prefix_cons.2 ⟨rfl, List.nil_prefix⟩
      have hnext := ih hsteps (noLink_tail hlink)
      have hne : steps ++ rest ≠ [] := by simp [hrest]
      rw [List.cons_append, walk_cons_into, namesOf_cons_into, descend]
      by_cases hlen : nameLimit < name.length
      · simp only [if_pos hlen]
      · simp only [if_neg hlen]
        cases hentry : d.find? (loc ++ [name]) with
        | none => rfl
        | some entry =>
          cases entry with
          | directory => exact hnext
          | file c => simp only [if_neg hne]
          | link target => exact absurd hentry (hlink _ hone target)

/-! ### The last step -/

/-- A direct trail that does not end in a name ends by staying, or has no steps. -/
theorem Direct.ends (h : d.Direct t) (hlast : ∀ name, t.steps.getLast? ≠ some (.into name)) :
    t.steps = [] ∨ ∃ steps, t.steps = steps ++ [.stay] := by
  cases hstep : t.steps.getLast? with
  | none => exact .inl (by simpa using hstep)
  | some step =>
    obtain ⟨steps, hsteps⟩ := List.getLast?_eq_some_iff.1 hstep
    cases step with
    | stay => exact .inr ⟨steps, hsteps⟩
    | up => exact absurd (hsteps ▸ List.mem_append_right _ List.mem_cons_self) h.noUp
    | into name => exact absurd hstep (hlast name)

/-- What comes before a step of a direct trail meets no link. -/
theorem Direct.front (h : d.Direct t) {step : Step} (hsteps : t.steps = steps ++ [step]) :
    Step.up ∉ steps ∧ ∀ front, front <+: namesOf steps →
      ∀ target, d.find? (d.start t ++ front) ≠ some (.link target) := by
  refine ⟨fun hm => h.noUp (hsteps ▸ List.mem_append_left _ hm), fun front hfront => ?_⟩
  refine h.noLink front (hfront.trans ?_)
  rw [Trail.names, hsteps, namesOf_append]
  exact List.prefix_append _ _

theorem names_eq_concat (hsteps : t.steps = steps ++ [.into name]) :
    t.names = namesOf steps ++ [name] := by
  rw [Trail.names, hsteps, namesOf_append]
  rfl

theorem Direct.slot_into (h : d.Direct t) (hsteps : t.steps = steps ++ [.into name]) :
    d.slot t =
      match d.descend (d.start t) (namesOf steps) with
      | .error cause => .error cause
      | .ok parent =>
        if nameLimit < name.length then .error .nameTooLong else .ok (parent, name) := by
  obtain ⟨hup, hlink⟩ := h.front hsteps
  unfold slot
  simp only [hsteps, List.getLast?_concat, List.dropLast_concat]
  rw [walk_eq_descend hup hlink (by simp)]
  cases d.descend (d.start t) (namesOf steps) with
  | error cause => rfl
  | ok mid => simp

theorem Direct.follow_into (h : d.Direct t) (last : Bool) (hsteps : t.steps = steps ++ [.into name]) :
    d.follow last t =
      match d.descend (d.start t) (namesOf steps) with
      | .error cause => .error cause
      | .ok parent =>
        d.walk last linkLimit parent (.into name :: if t.slash then [.stay] else []) := by
  obtain ⟨hup, hlink⟩ := h.front hsteps
  rw [follow, hsteps, List.append_assoc, List.singleton_append]
  exact walk_eq_descend hup hlink (by simp)

theorem Direct.slot_stay (h : d.Direct t) (hlast : ∀ name, t.steps.getLast? ≠ some (.into name)) :
    d.slot t =
      match d.descend (d.start t) t.names with
      | .error cause => .error cause
      | .ok _ => .error .alreadyExists := by
  rcases h.ends hlast with hsteps | ⟨steps, hsteps⟩
  · rw [slot, hsteps, Trail.names, hsteps]
    rfl
  · obtain ⟨hup, hlink⟩ := h.front hsteps
    have hnames : t.names = namesOf steps := by simp [Trail.names, hsteps]
    unfold slot
    simp only [hsteps, List.getLast?_concat, List.dropLast_concat]
    rw [walk_eq_descend hup hlink (by simp), hnames]
    cases d.descend (d.start t) (namesOf steps) with
    | error cause => rfl
    | ok mid => simp

theorem Direct.follow_stay (h : d.Direct t) (last : Bool)
    (hlast : ∀ name, t.steps.getLast? ≠ some (.into name)) :
    d.follow last t = d.descend (d.start t) t.names := by
  rcases h.ends hlast with hsteps | ⟨steps, hsteps⟩
  · rw [follow, hsteps, Trail.names, hsteps]
    cases t.slash <;> simp
  · obtain ⟨hup, hlink⟩ := h.front hsteps
    have hnames : t.names = namesOf steps := by simp [Trail.names, hsteps]
    rw [follow, hsteps, List.append_assoc, walk_eq_descend hup hlink (by simp), hnames]
    cases d.descend (d.start t) (namesOf steps) with
    | error cause => rfl
    | ok mid => cases t.slash <;> simp

end FolderSync.Disk
