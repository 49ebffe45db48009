import FolderSync.Proofs.Disk.Tree

/-!
# What a walk looks at

A walk through links and `..` looks at one location after another (`Disk.passed`), and nothing else
on the disk matters to it (`congr_of_passed`).  `Disk.way` are the locations that decide where
a path leads.

* `walk_induction`: induction along a walk; `Going`: how a walk that arrives goes into a name.
* `walk_until`: a walk up to the first location of a kind.
* `walk_append`: a walk that ends in a directory can be continued from there.
* `eq_of_file_passed`: a walk that looks at a file ends there or nowhere.
-/

namespace FolderSync.Disk

/-- Induction along a walk: behind a link it goes on from anywhere, with one link less. -/
theorem walk_induction {motive : Nat → Location → List Step → Prop}
    (nil : ∀ links loc, motive links loc [])
    (stay : ∀ links loc rest, motive links loc rest → motive links loc (.stay :: rest))
    (up : ∀ links loc rest, motive links loc.dropLast rest → motive links loc (.up :: rest))
    (into : ∀ links loc name rest, motive links (loc ++ [name]) rest →
      (∀ more, links = more + 1 → ∀ loc' steps, motive more loc' steps) →
      motive links loc (.into name :: rest))
    (links : Nat) (loc : Location) (steps : List Step) : motive links loc steps := by
  -- outside on the links that are left, inside on the steps
  have inner : ∀ links, (∀ more, links = more + 1 → ∀ loc steps, motive more loc steps) →
      ∀ loc steps, motive links loc steps := by
    intro links beyond loc steps
    induction steps generalizing loc with
    | nil => exact nil links loc
    | cons step rest ih =>
      cases step with
      | stay => exact stay links loc rest (ih loc)
      | up => exact up links loc rest (ih loc.dropLast)
      | into name => exact into links loc name rest (ih (loc ++ [name])) beyond
  induction links generalizing loc steps with
  | zero => exact inner 0 (fun more h => by cases h) loc steps
  | succ links ih =>
    refine inner (links + 1) (fun more h => ?_) loc steps
    obtain rfl := Nat.succ.inj h
    exact fun loc steps => ih loc steps

/-! ### Behind a link -/

/-- The location from which the target of a link is sought. -/
def linkStart (loc : Location) (target : Bytes) : Location :=
  if (Trail.ofBytes target).absolute then [] else loc

/-- The steps that a link puts in front of those that are left. -/
def linkSteps (target : Bytes) : List Step :=
  (Trail.ofBytes target).steps ++ if (Trail.ofBytes target).slash then [.stay] else []

/-! ### The locations that are passed -/

/-- The locations that `walkWith` looks at; `beyond` gives those behind a link. -/
def passedWith (d : Disk) (last : Bool)
    (beyond : Option (Location → List Step → List Location)) (loc : Location) :
    List Step → List Location
  | [] => []
  | .stay :: rest => d.passedWith last beyond loc rest
  | .up :: rest => d.passedWith last beyond loc.dropLast rest
  | .into name :: rest =>
    if nameLimit < name.length then []
    else (loc ++ [name]) :: match d.find? (loc ++ [name]) with
      | none => []
      | some .directory => d.passedWith last beyond (loc ++ [name]) rest
      | some (.file _) => []
      | some (.link target) =>
        if rest = [] ∧ last = false then []
        else match beyond with
          | none => []
          | some go => go (linkStart loc target) (linkSteps target ++ rest)

/-- The locations that a walk looks at, one after the other. -/
def passed (d : Disk) (last : Bool) : (links : Nat) → Location → List Step → List Location
  | 0 => d.passedWith last none
  | more + 1 => d.passedWith last (some (d.passed last more))

/-- The locations that decide where a path leads. -/
def way (d : Disk) (p : Path) : List Location :=
  d.passed true linkLimit (d.start p.trail) (p.trail.steps ++ if p.trail.slash then [.stay] else [])

section Passed

variable (d : Disk) (last : Bool) (links : Nat) (loc : Location) (rest : List Step)

@[simp] theorem passed_nil : d.passed last links loc [] = [] := by
  cases links <;> rfl

@[simp] theorem passed_cons_stay :
    d.passed last links loc (.stay :: rest) = d.passed last links loc rest := by
  cases links <;> rfl

@[simp] theorem passed_cons_up :
    d.passed last links loc (.up :: rest) = d.passed last links loc.dropLast rest := by
  cases links <;> rfl

theorem passed_cons_into (name : Name) :
    d.passed last links loc (.into name :: rest) =
      if nameLimit < name.length then []
      else (loc ++ [name]) :: match d.find? (loc ++ [name]) with
        | none => []
        | some .directory => d.passed last links (loc ++ [name]) rest
        | some (.file _) => []
        | some (.link target) =>
          if rest = [] ∧ last = false then []
          else match links with
            | 0 => []
            | more + 1 => d.passed last more (linkStart loc target) (linkSteps target ++ rest) := by
  cases links <;> rfl

end Passed

variable {d e : Disk} {last : Bool} {links more : Nat} {loc out mid : Location} {name : Name}
  {rest steps : List Step} {target : Bytes}

/-! ### Going into a name -/

/-- How a walk that arrives goes into a name. -/
inductive Going (d : Disk) (last : Bool) (links : Nat) (loc : Location) (name : Name)
    (rest : List Step) (out : Location) : Prop
  | enter (entry : d.find? (loc ++ [name]) = some .directory)
      (next : d.walk last links (loc ++ [name]) rest = .ok out)
  | arrive {c : Content} (entry : d.find? (loc ++ [name]) = some (.file c)) (done : rest = [])
      (there : out = loc ++ [name])
  | keep {target : Bytes} (entry : d.find? (loc ++ [name]) = some (.link target)) (done : rest = [])
      (off : last = false) (there : out = loc ++ [name])
  | follow {target : Bytes} {more : Nat} (entry : d.find? (loc ++ [name]) = some (.link target))
      (goes : ¬ (rest = [] ∧ last = false)) (left : links = more + 1)
      (next : d.walk last more (linkStart loc target) (linkSteps target ++ rest) = .ok out)

theorem going_of_walk (h : d.walk last links loc (.into name :: rest) = .ok out) :
    name.length ≤ nameLimit ∧ d.Going last links loc name rest out := by
  rw [walk_cons_into] at h
  split at h
  · cases h
  · rename_i hlen
    refine ⟨Nat.not_lt.1 hlen, ?_⟩
    split at h
    · cases h
    · rename_i hentry
      exact .enter hentry h
    · rename_i hentry
      split at h
      · rename_i hdone
        exact .arrive hentry hdone (Except.ok.inj h).symm
      · cases h
    · rename_i target hentry
      split at h
      · rename_i hend
        exact .keep hentry hend.1 hend.2 (Except.ok.inj h).symm
      · rename_i hgoes
        split at h
        · cases h
        · exact .follow hentry hgoes rfl h

/-- Whatever the walk goes on with: a directory is entered. -/
theorem walk_enter (hlen : name.length ≤ nameLimit)
    (hentry : d.find? (loc ++ [name]) = some .directory) (rest : List Step) :
    d.walk last links loc (.into name :: rest) = d.walk last links (loc ++ [name]) rest := by
  rw [walk_cons_into, if_neg (Nat.not_lt.2 hlen)]
  simp only [hentry]

theorem walk_arrive {c : Content} (hlen : name.length ≤ nameLimit)
    (hentry : d.find? (loc ++ [name]) = some (.file c)) :
    d.walk last links loc [.into name] = .ok (loc ++ [name]) := by
  rw [walk_cons_into, if_neg (Nat.not_lt.2 hlen)]
  simp only [hentry, if_true]

/-- Whatever the walk goes on with: a link is followed. -/
theorem walk_follow (hlen : name.length ≤ nameLimit)
    (hentry : d.find? (loc ++ [name]) = some (.link target)) (hgoes : ¬ (rest = [] ∧ last = false)) :
    d.walk last (more + 1) loc (.into name :: rest) =
      d.walk last more (linkStart loc target) (linkSteps target ++ rest) := by
  rw [walk_cons_into, if_neg (Nat.not_lt.2 hlen)]
  simp only [hentry, if_neg hgoes]
  rfl

/-- A walk that goes into a file ends there, if it arrives. -/
theorem done_of_file {c : Content} (hentry : d.find? (loc ++ [name]) = some (.file c))
    (h : d.walk last links loc (.into name :: rest) = .ok out) :
    rest = [] ∧ out = loc ++ [name] := by
  cases (going_of_walk h).2 with
  | enter hother _ => exact absurd (hentry.symm.trans hother) (by simp)
  | arrive _ hdone hthere => exact ⟨hdone, hthere⟩
  | keep hother _ _ _ => exact absurd (hentry.symm.trans hother) (by simp)
  | follow hother _ _ _ => exact absurd (hentry.symm.trans hother) (by simp)

/-- What is passed in going into a name. -/
theorem mem_passed_into {l : Location} : l ∈ d.passed last links loc (.into name :: rest) ↔
    name.length ≤ nameLimit ∧ (l = loc ++ [name] ∨
      (d.find? (loc ++ [name]) = some .directory ∧ l ∈ d.passed last links (loc ++ [name]) rest) ∨
      ∃ target more, d.find? (loc ++ [name]) = some (.link target) ∧ ¬ (rest = [] ∧ last = false) ∧
        links = more + 1 ∧ l ∈ d.passed last more (linkStart loc target) (linkSteps target ++ rest)) := by
  rw [passed_cons_into]
  by_cases hlen : nameLimit < name.length
  · simp [hlen, Nat.not_le.2 hlen]
  · rw [if_neg hlen, List.mem_cons, and_iff_right (Nat.not_lt.1 hlen)]
    refine or_congr_right ?_
    cases hentry : d.find? (loc ++ [name]) with
    | none => simp
    | some entry =>
      cases entry with
      | directory => simp
      | file c => simp
      | link target =>
        by_cases hend : rest = [] ∧ last = false
        · simp [hend]
        · cases links <;> simp [hend]

theorem passed_enter (hlen : name.length ≤ nameLimit) (h : d.find? (loc ++ [name]) = some .directory) :
    d.passed last links loc (.into name :: rest) =
      (loc ++ [name]) :: d.passed last links (loc ++ [name]) rest := by
  rw [passed_cons_into, if_neg (Nat.not_lt.2 hlen)]
  simp only [h]

theorem passed_follow (hlen : name.length ≤ nameLimit)
    (h : d.find? (loc ++ [name]) = some (.link target)) (hgoes : ¬ (rest = [] ∧ last = false)) :
    d.passed last (more + 1) loc (.into name :: rest) =
      (loc ++ [name]) :: d.passed last more (linkStart loc target) (linkSteps target ++ rest) := by
  rw [passed_cons_into, if_neg (Nat.not_lt.2 hlen)]
  simp only [h, if_neg hgoes]

/-! ### Only what is passed matters -/

/-- **Two disks that show the same where a walk looks lead it to the same place, the same way.** -/
theorem congr_of_passed (h : ∀ l ∈ d.passed last links loc steps, e.find? l = d.find? l) :
    e.walk last links loc steps = d.walk last links loc steps ∧
      e.passed last links loc steps = d.passed last links loc steps := by
  induction links, loc, steps using walk_induction with
  | nil links loc => simp
  | stay links loc rest ih => simpa using ih (by simpa using h)
  | up links loc rest ih => simpa using ih (by simpa using h)
  | into links loc name rest ih beyond =>
    rw [walk_cons_into, walk_cons_into, passed_cons_into, passed_cons_into]
    by_cases hlen : nameLimit < name.length
    · simp only [if_pos hlen, and_self]
    simp only [if_neg hlen]
    have hshort := Nat.not_lt.1 hlen
    rw [h _ (mem_passed_into.2 ⟨hshort, .inl rfl⟩)]
    cases hentry : d.find? (loc ++ [name]) with
    | none => exact ⟨rfl, rfl⟩
    | some entry =>
      cases entry with
      | directory =>
        obtain ⟨hwalk, hpassed⟩ := ih fun l hl =>
          h l (mem_passed_into.2 ⟨hshort, .inr (.inl ⟨hentry, hl⟩)⟩)
        exact ⟨hwalk, congrArg (_ :: ·) hpassed⟩
      | file c => exact ⟨rfl, rfl⟩
      | link target =>
        by_cases hend : rest = [] ∧ last = false
        · simp only [if_pos hend, and_self]
        · simp only [if_neg hend]
          cases links with
          | zero => exact ⟨rfl, rfl⟩
          | succ more =>
            obtain ⟨hwalk, hpassed⟩ := beyond more rfl (linkStart loc target)
              (linkSteps target ++ rest) fun l hl =>
                h l (mem_passed_into.2 ⟨hshort, .inr (.inr ⟨target, more, hentry, hend, rfl, hl⟩)⟩)
            exact ⟨hwalk, congrArg (_ :: ·) hpassed⟩

theorem walk_congr_of_passed (h : ∀ l ∈ d.passed last links loc steps, e.find? l = d.find? l) :
    e.walk last links loc steps = d.walk last links loc steps := (congr_of_passed h).1

/-- **A walk that passes a location of a kind comes to one through others alone.**  From there on it
may differ on disks that differ in these locations only. -/
theorem walk_until {A : Location → Prop} (h : ∃ l ∈ d.passed last links loc steps, A l) :
    ∃ k ≤ links, ∃ front name rest, name.length ≤ nameLimit ∧ A (front ++ [name]) ∧
      ∀ e : Disk, (∀ l, ¬ A l → e.find? l = d.find? l) →
        e.walk last links loc steps = e.walk last k front (.into name :: rest) := by
  induction links, loc, steps using walk_induction with
  | nil links loc => simp at h
  | stay links loc rest ih => simpa using ih (by simpa using h)
  | up links loc rest ih => simpa using ih (by simpa using h)
  | into links loc name rest ih beyond =>
    obtain ⟨l, hl, hA⟩ := h
    obtain ⟨hlen, hcases⟩ := mem_passed_into.1 hl
    by_cases hhere : A (loc ++ [name])
    · exact ⟨links, Nat.le_refl _, loc, name, rest, hlen, hhere, fun e _ => rfl⟩
    rcases hcases with rfl | ⟨hentry, hnext⟩ | ⟨target, more, hentry, hgoes, rfl, hnext⟩
    · exact absurd hA hhere
    · obtain ⟨k, hk, front, n, r, hn, hfront, hwalk⟩ := ih ⟨l, hnext, hA⟩
      refine ⟨k, hk, front, n, r, hn, hfront, fun e he => ?_⟩
      rw [walk_enter hlen ((he _ hhere).trans hentry)]
      exact hwalk e he
    · obtain ⟨k, hk, front, n, r, hn, hfront, hwalk⟩ := beyond more rfl _ _ ⟨l, hnext, hA⟩
      refine ⟨k, Nat.le_succ_of_le hk, front, n, r, hn, hfront, fun e he => ?_⟩
      rw [walk_follow hlen ((he _ hhere).trans hentry) hgoes]
      exact hwalk e he

/-- A walk that arrives also arrives if it may follow more links. -/
theorem walk_mono (h : d.walk last links loc steps = .ok out) (hle : links ≤ more) :
    d.walk last more loc steps = .ok out := by
  induction links, loc, steps using walk_induction generalizing more with
  | nil links loc => simpa using h
  | stay links loc rest ih => simpa using ih (by simpa using h) hle
  | up links loc rest ih => simpa using ih (by simpa using h) hle
  | into links loc name rest ih beyond =>
    obtain ⟨hlen, hgoing⟩ := going_of_walk h
    cases hgoing with
    | enter hentry hnext => rw [walk_enter hlen hentry, ih hnext hle]
    | arrive hentry hdone hthere => rw [hdone, walk_arrive hlen hentry, hthere]
    | keep hentry hdone hoff hthere =>
      rw [walk_cons_into, if_neg (Nat.not_lt.2 hlen)]
      simp only [hentry, if_pos (And.intro hdone hoff), hthere]
    | follow hentry hgoes hleft hnext =>
      obtain ⟨fewer, rfl⟩ : ∃ fewer, more = fewer + 1 := ⟨more - 1, by omega⟩
      rw [walk_follow hlen hentry hgoes]
      exact beyond _ hleft _ _ hnext (by omega)

/-! ### Where a walk ends -/

/-- A walk that looks at a file ends there, if it arrives. -/
theorem eq_of_file_passed (h : d.walk last links loc steps = .ok out) {l : Location} {c : Content}
    (hl : l ∈ d.passed last links loc steps) (hfile : d.find? l = some (.file c)) : out = l := by
  induction links, loc, steps using walk_induction with
  | nil links loc => simp at hl
  | stay links loc rest ih => exact ih (by simpa using h) (by simpa using hl)
  | up links loc rest ih => exact ih (by simpa using h) (by simpa using hl)
  | into links loc name rest ih beyond =>
    obtain ⟨hlen, hcases⟩ := mem_passed_into.1 hl
    rcases hcases with rfl | ⟨hdir, hnext⟩ | ⟨target, more, hlink, hgoes, rfl, hnext⟩
    · exact (done_of_file hfile h).2
    · rw [walk_enter hlen hdir] at h
      exact ih h hnext
    · rw [walk_follow hlen hlink hgoes] at h
      exact beyond more rfl _ _ h hnext

theorem find?_linkStart (hloc : d.find? loc = some .directory) (target : Bytes) :
    d.find? (linkStart loc target) = some .directory := by
  unfold linkStart
  split
  · exact find?_root d
  · exact hloc

/-- A walk from a directory ends at a location that it looked at, or in a directory. -/
theorem mem_passed_or_directory (hdisk : d.WellFormed) (hloc : d.find? loc = some .directory)
    (h : d.walk last links loc steps = .ok out) :
    out ∈ d.passed last links loc steps ∨ d.find? out = some .directory := by
  induction links, loc, steps using walk_induction with
  | nil links loc =>
    rw [walk_nil] at h
    exact .inr (Except.ok.inj h ▸ hloc)
  | stay links loc rest ih => simpa using ih hloc (by simpa using h)
  | up links loc rest ih =>
    simpa using ih (hdisk.directory_on_way' hloc (List.dropLast_prefix loc)) (by simpa using h)
  | into links loc name rest ih beyond =>
    obtain ⟨hlen, hgoing⟩ := going_of_walk h
    cases hgoing with
    | enter hentry hnext =>
      refine (ih hentry hnext).imp_left fun hl => ?_
      exact mem_passed_into.2 ⟨hlen, .inr (.inl ⟨hentry, hl⟩)⟩
    | arrive _ _ hthere => exact .inl (mem_passed_into.2 ⟨hlen, .inl hthere⟩)
    | keep _ _ _ hthere => exact .inl (mem_passed_into.2 ⟨hlen, .inl hthere⟩)
    | @follow target more hentry hgoes hleft hnext =>
      refine (beyond more hleft _ _ (find?_linkStart hloc target) hnext).imp_left fun hl => ?_
      exact mem_passed_into.2 ⟨hlen, .inr (.inr ⟨target, more, hentry, hgoes, hleft, hl⟩)⟩

/-- Where a walk that arrives looks, something stands. -/
theorem find?_ne_none_of_passed (h : d.walk last links loc steps = .ok out) {l : Location}
    (hl : l ∈ d.passed last links loc steps) : d.find? l ≠ none := by
  induction links, loc, steps using walk_induction with
  | nil links loc => simp at hl
  | stay links loc rest ih => exact ih (by simpa using h) (by simpa using hl)
  | up links loc rest ih => exact ih (by simpa using h) (by simpa using hl)
  | into links loc name rest ih beyond =>
    obtain ⟨hlen, hgoing⟩ := going_of_walk h
    obtain ⟨-, hcases⟩ := mem_passed_into.1 hl
    rcases hcases with rfl | ⟨hdir, hnext⟩ | ⟨target, more, hlink, hgoes, rfl, hnext⟩
    · cases hgoing with
      | enter hentry _ => simp [hentry]
      | arrive hentry _ _ => simp [hentry]
      | keep hentry _ _ _ => simp [hentry]
      | follow hentry _ _ _ => simp [hentry]
    · rw [walk_enter hlen hdir] at h
      exact ih h hnext
    · rw [walk_follow hlen hlink hgoes] at h
      exact beyond more rfl _ _ h hnext

/-! ### Walks to a directory -/

/-- A walk whose last step stays ends in a directory. -/
theorem directory_of_walk_stay (hdisk : d.WellFormed) (hloc : d.find? loc = some .directory)
    (h : d.walk last links loc (steps ++ [.stay]) = .ok out) : d.find? out = some .directory := by
  induction links, loc, steps using walk_induction with
  | nil links loc =>
    rw [List.nil_append, walk_cons_stay, walk_nil] at h
    exact Except.ok.inj h ▸ hloc
  | stay links loc rest ih => exact ih hloc (by simpa using h)
  | up links loc rest ih =>
    exact ih (hdisk.directory_on_way' hloc (List.dropLast_prefix loc)) (by simpa using h)
  | into links loc name rest ih beyond =>
    rw [List.cons_append] at h
    obtain ⟨-, hgoing⟩ := going_of_walk h
    cases hgoing with
    | enter hentry hnext => exact ih hentry hnext
    | arrive _ hdone _ => simp at hdone
    | keep _ hdone _ _ => simp at hdone
    | follow _ _ hleft hnext =>
      rw [← List.append_assoc] at hnext
      exact beyond _ hleft _ _ (find?_linkStart hloc _) hnext

/-- On the way of such a walk there are directories and links. -/
theorem directory_or_link_of_passed (hdisk : d.WellFormed) (hloc : d.find? loc = some .directory)
    (h : d.walk last links loc (steps ++ [.stay]) = .ok out) {l : Location}
    (hl : l ∈ d.passed last links loc (steps ++ [.stay])) :
    d.find? l = some .directory ∨ ∃ target, d.find? l = some (.link target) := by
  cases hentry : d.find? l with
  | none => exact absurd hentry (find?_ne_none_of_passed h hl)
  | some entry =>
    cases entry with
    | directory => exact .inl rfl
    | file c =>
      have hdir := directory_of_walk_stay hdisk hloc h
      rw [eq_of_file_passed h hl hentry, hentry] at hdir
      cases hdir
    | link target => exact .inr ⟨target, rfl⟩

/-- Such a walk arrives where it would without the last step. -/
theorem walk_of_walk_stay (h : d.walk true links loc (steps ++ [.stay]) = .ok out) :
    d.walk true links loc steps = .ok out := by
  induction links, loc, steps using walk_induction with
  | nil links loc => simpa using h
  | stay links loc rest ih => simpa using ih (by simpa using h)
  | up links loc rest ih => simpa using ih (by simpa using h)
  | into links loc name rest ih beyond =>
    rw [List.cons_append] at h
    obtain ⟨hlen, hgoing⟩ := going_of_walk h
    cases hgoing with
    | enter hentry hnext => rw [walk_enter hlen hentry, ih hnext]
    | arrive _ hdone _ => simp at hdone
    | keep _ _ hoff _ => cases hoff
    | follow hentry _ hleft hnext =>
      subst hleft
      rw [← List.append_assoc] at hnext
      rw [walk_follow hlen hentry (by simp), beyond _ rfl _ _ hnext]

/-- If it ends in a directory, a walk arrives with such a last step, too. -/
theorem walk_stay_of_walk (h : d.walk true links loc steps = .ok out)
    (hdir : d.find? out = some .directory) : d.walk true links loc (steps ++ [.stay]) = .ok out := by
  induction links, loc, steps using walk_induction with
  | nil links loc => simpa using h
  | stay links loc rest ih => simpa using ih (by simpa using h)
  | up links loc rest ih => simpa using ih (by simpa using h)
  | into links loc name rest ih beyond =>
    obtain ⟨hlen, hgoing⟩ := going_of_walk h
    rw [List.cons_append]
    cases hgoing with
    | enter hentry hnext => rw [walk_enter hlen hentry, ih hnext]
    | arrive hentry _ hthere =>
      rw [hthere, hentry] at hdir
      cases hdir
    | keep _ _ hoff _ => cases hoff
    | follow hentry _ hleft hnext =>
      subst hleft
      rw [walk_follow hlen hentry (by simp), ← List.append_assoc, beyond _ rfl _ _ hnext]

/-- It looks at the same locations, too. -/
theorem passed_concat_stay : d.passed true links loc (steps ++ [.stay]) =
    d.passed true links loc steps := by
  induction links, loc, steps using walk_induction with
  | nil links loc => simp
  | stay links loc rest ih => simpa using ih
  | up links loc rest ih => simpa using ih
  | into links loc name rest ih beyond =>
    rw [List.cons_append, passed_cons_into, passed_cons_into, ih]
    cases links with
    | zero => simp
    | succ more =>
      have hbeyond := fun target => beyond more rfl (linkStart loc target) (linkSteps target ++ rest)
      simp only [List.append_assoc] at hbeyond
      simp [hbeyond]

/-- On the way to a directory, steps that stay do not count. -/
theorem walk_insert_stay (front : List Step) :
    d.walk true links loc (front ++ .stay :: rest ++ [.stay]) =
      d.walk true links loc (front ++ rest ++ [.stay]) := by
  induction links, loc, front using walk_induction with
  | nil links loc => simp
  | stay links loc front ih => simpa using ih
  | up links loc front ih => simpa using ih
  | into links loc name front ih beyond =>
    rw [List.cons_append, List.cons_append, List.cons_append, List.cons_append, walk_cons_into,
      walk_cons_into, ih]
    cases links with
    | zero => simp
    | succ more =>
      have hbeyond := fun target => beyond more rfl (linkStart loc target) (linkSteps target ++ front)
      simp only [List.append_assoc, linkStart, linkSteps, List.cons_append] at hbeyond
      simp [hbeyond]

theorem walk_filter_stay (front steps : List Step) :
    d.walk true links loc (front ++ steps.filter (· ≠ .stay) ++ [.stay]) =
      d.walk true links loc (front ++ steps ++ [.stay]) := by
  induction steps generalizing front with
  | nil => simp
  | cons step rest ih =>
    by_cases hstay : step = .stay
    · subst hstay
      rw [List.filter_cons_of_neg (by simp), ih, walk_insert_stay]
    · have hnext := ih (front ++ [step])
      rw [List.filter_cons_of_pos (by simpa using hstay)]
      simpa using hnext

/-- The place for a new entry is in the directory to which the steps before it lead. -/
theorem slot_eq_ok {t : Trail} {parent : Location} (h : d.slot t = .ok (parent, name)) :
    ∃ steps, t.steps = steps ++ [.into name] ∧ name.length ≤ nameLimit ∧
      d.walk true linkLimit (d.start t) (steps ++ [.stay]) = .ok parent := by
  unfold slot at h
  cases hlast : t.steps.getLast? with
  | none => simp [hlast] at h
  | some step =>
    obtain ⟨steps, ht⟩ := List.getLast?_eq_some_iff.1 hlast
    simp only [ht, List.getLast?_concat, List.dropLast_concat] at h
    cases hwalk : d.walk true linkLimit (d.start t) (steps ++ [.stay]) with
    | error cause => simp [hwalk] at h
    | ok found =>
      simp only [hwalk] at h
      cases step with
      | stay => cases h
      | up => cases h
      | into n =>
        simp only at h
        split at h
        · cases h
        · rename_i hlen
          obtain ⟨rfl, rfl⟩ := Prod.mk.inj (Except.ok.inj h)
          exact ⟨steps, ht, Nat.not_lt.1 hlen, hwalk⟩

/-- **A walk that ends in a directory can be continued from there,** with the links that are left.  That
goes for all disks that show the same on the way. -/
theorem walk_append_congr (h : d.walk last links loc (steps ++ [.stay]) = .ok mid) :
    ∃ k ≤ links, ∀ e : Disk,
      (∀ l ∈ d.passed last links loc (steps ++ [.stay]), e.find? l = d.find? l) →
      ∀ more ≠ [], ∀ last', e.walk last' links loc (steps ++ more) = e.walk last' k mid more ∧
        e.passed last' links loc (steps ++ more) =
          d.passed last links loc (steps ++ [.stay]) ++ e.passed last' k mid more := by
  induction links, loc, steps using walk_induction with
  | nil links loc =>
    rw [List.nil_append, walk_cons_stay, walk_nil] at h
    obtain rfl := Except.ok.inj h
    exact ⟨links, Nat.le_refl _, fun e _ more _ last' => by simp⟩
  | stay links loc rest ih => simpa using ih (by simpa using h)
  | up links loc rest ih => simpa using ih (by simpa using h)
  | into links loc name rest ih beyond =>
    rw [List.cons_append] at h
    obtain ⟨hlen, hgoing⟩ := going_of_walk h
    cases hgoing with
    | enter hentry hnext =>
      obtain ⟨k, hk, hwalk⟩ := ih hnext
      refine ⟨k, hk, fun e he more hmore last' => ?_⟩
      rw [List.cons_append, passed_enter hlen hentry] at he
      have hentry' := (he _ List.mem_cons_self).trans hentry
      obtain ⟨hsame, hpassed⟩ := hwalk e (fun l hl => he l (List.mem_cons_of_mem _ hl)) more hmore last'
      rw [List.cons_append, List.cons_append, walk_enter hlen hentry', passed_enter hlen hentry',
        passed_enter hlen hentry, hpassed]
      exact ⟨hsame, rfl⟩
    | arrive _ hdone _ => simp at hdone
    | keep _ hdone _ _ => simp at hdone
    | follow hentry hgoes hleft hnext =>
      subst hleft
      rw [← List.append_assoc] at hnext
      obtain ⟨k, hk, hwalk⟩ := beyond _ rfl _ _ hnext
      refine ⟨k, Nat.le_succ_of_le hk, fun e he more hmore last' => ?_⟩
      rw [List.cons_append, passed_follow hlen hentry hgoes, ← List.append_assoc] at he
      have hentry' := (he _ List.mem_cons_self).trans hentry
      have hgoes' : ¬ (rest ++ more = [] ∧ last' = false) := by simp [hmore]
      obtain ⟨hsame, hpassed⟩ := hwalk e (fun l hl => he l (List.mem_cons_of_mem _ hl)) more hmore last'
      rw [List.cons_append, List.cons_append, walk_follow hlen hentry' hgoes',
        passed_follow hlen hentry' hgoes', passed_follow hlen hentry hgoes, ← List.append_assoc,
        ← List.append_assoc, hpassed]
      exact ⟨hsame, rfl⟩

theorem walk_append (h : d.walk last links loc (steps ++ [.stay]) = .ok mid) :
    ∃ k ≤ links, ∀ more ≠ [], ∀ last,
      d.walk last links loc (steps ++ more) = d.walk last k mid more := by
  obtain ⟨k, hk, hwalk⟩ := walk_append_congr h
  exact ⟨k, hk, fun more hmore last => (hwalk d (fun _ _ => rfl) more hmore last).1⟩

/-- The front of a walk that arrives leads to a directory. -/
theorem exists_walk_stay {more : List Step} (hmore : more ≠ [])
    (h : d.walk last links loc (steps ++ more) = .ok out) :
    ∃ mid, d.walk last links loc (steps ++ [.stay]) = .ok mid := by
  induction links, loc, steps using walk_induction with
  | nil links loc => exact ⟨loc, by simp⟩
  | stay links loc rest ih => simpa using ih (by simpa using h)
  | up links loc rest ih => simpa using ih (by simpa using h)
  | into links loc name rest ih beyond =>
    rw [List.cons_append] at h ⊢
    obtain ⟨hlen, hgoing⟩ := going_of_walk h
    cases hgoing with
    | enter hentry hnext =>
      rw [walk_enter hlen hentry]
      exact ih hnext
    | arrive _ hdone _ => exact absurd (List.append_eq_nil_iff.1 hdone).2 hmore
    | keep _ hdone _ _ => exact absurd (List.append_eq_nil_iff.1 hdone).2 hmore
    | follow hentry _ hleft hnext =>
      subst hleft
      rw [← List.append_assoc] at hnext
      rw [walk_follow hlen hentry (by simp), ← List.append_assoc]
      exact beyond _ rfl _ _ hnext

end FolderSync.Disk
