import FolderSync.Plan
import FolderSync.Proofs.NameMap

/-!
# Plans sort a manifest

Every artifact of a manifest has one `Fate`, and the plan's four sets are the names by their fate
(`mem_set_between`).  So the sets together have as many names as the manifest
(`total_between`), and no name is to be fetched twice (`nodup_actionable`).

* `Plan.Settled`: a plan in which every artifact is as it should be.
* `Manifest.fetched`: the descriptors of the names that are to be fetched, in order.
-/

namespace FolderSync

/-! ### Looking up a name -/

namespace Manifest

variable {m : Manifest} {d : Descriptor} {name : String}

/-- No two artifacts of a manifest share a name. -/
theorem eq_of_filename_eq {c : Descriptor} (hc : c ∈ m.artifacts) (hd : d ∈ m.artifacts)
    (h : c.filename = d.filename) : c = d :=
  List.inj_on_of_nodup_map m.nodup_names hc hd h

theorem get?_eq_some_iff : m.get? name = some d ↔ d ∈ m.artifacts ∧ d.filename = name := by
  unfold get?
  constructor
  · intro h
    exact ⟨List.mem_of_find?_eq_some h, by simpa using List.find?_some h⟩
  · rintro ⟨hmem, rfl⟩
    cases hfind : m.artifacts.find? fun c => c.filename = d.filename with
    | none =>
      have hno := List.find?_eq_none.1 hfind d hmem
      simp at hno
    | some c =>
      have hname : c.filename = d.filename := by simpa using List.find?_some hfind
      rw [eq_of_filename_eq (List.mem_of_find?_eq_some hfind) hmem hname]

/-- The artifacts of the given names. -/
def fetched (m : Manifest) (names : List String) : List Descriptor := names.filterMap m.get?

theorem mem_of_mem_fetched {names : List String} (h : d ∈ m.fetched names) : d ∈ m.artifacts := by
  obtain ⟨name, -, hget⟩ := List.mem_filterMap.1 h
  exact (get?_eq_some_iff.1 hget).1

/-- Names of the manifest are the names of their artifacts. -/
theorem map_filename_fetched {names : List String}
    (h : ∀ name ∈ names, ∃ d ∈ m.artifacts, d.filename = name) :
    (m.fetched names).map Descriptor.filename = names := by
  induction names with
  | nil => rfl
  | cons name rest ih =>
    obtain ⟨d, hmem, hname⟩ := h name List.mem_cons_self
    have hget : m.get? name = some d := get?_eq_some_iff.2 ⟨hmem, hname⟩
    have hrest := ih fun other ho => h other (List.mem_cons_of_mem _ ho)
    rw [fetched, List.filterMap_cons, hget, List.map_cons, hname]
    exact congrArg (name :: ·) hrest

end Manifest

/-! ### The fate of an artifact -/

/-- What is to be done with an artifact. -/
inductive Fate where
  | install
  | update
  | keep
  | skip
deriving DecidableEq, Repr

/-- What is to be done with an artifact, as the inventory is. -/
def fate (inventory : Inventory) (f : Filter) (d : Descriptor) : Fate :=
  if ¬ f.Matches d.filename then .skip
  else match inventory.get? d.filename with
    | none => .install
    | some hash => if hash = d.hash then .keep else .update

section Fate

variable {inventory : Inventory} {f : Filter} {d : Descriptor}

theorem fate_eq_skip_iff : fate inventory f d = .skip ↔ ¬ f.Matches d.filename := by
  unfold fate
  split
  · rename_i h
    exact ⟨fun _ => h, fun _ => rfl⟩
  · rename_i h
    refine ⟨fun hskip => ?_, fun hno => absurd hno h⟩
    split at hskip
    · cases hskip
    · split at hskip <;> cases hskip

/-- What is to be done depends on what the inventory says of the artifact's name alone. -/
theorem fate_congr {other : Inventory} (h : other.get? d.filename = inventory.get? d.filename) :
    fate other f d = fate inventory f d := by
  unfold fate
  rw [h]

theorem fate_eq_keep_iff :
    fate inventory f d = .keep ↔ f.Matches d.filename ∧ inventory.get? d.filename = some d.hash := by
  unfold fate
  split
  · rename_i h
    exact ⟨fun he => (by cases he), fun he => absurd he.1 h⟩
  · rename_i h
    cases hget : inventory.get? d.filename with
    | none => simp
    | some hash =>
      simp only [Option.some.injEq, not_not.1 h, true_and]
      split <;> simp_all

theorem fate_eq_install_iff :
    fate inventory f d = .install ↔ f.Matches d.filename ∧ inventory.get? d.filename = none := by
  unfold fate
  cases hget : inventory.get? d.filename with
  | none => by_cases h : f.Matches d.filename <;> simp [h]
  | some hash =>
    by_cases h : f.Matches d.filename <;> by_cases hhash : hash = d.hash <;> simp [h, hhash]

theorem fate_eq_update_iff : fate inventory f d = .update ↔
    f.Matches d.filename ∧ ∃ hash, inventory.get? d.filename = some hash ∧ hash ≠ d.hash := by
  unfold fate
  cases hget : inventory.get? d.filename with
  | none => by_cases h : f.Matches d.filename <;> simp [h]
  | some hash =>
    by_cases h : f.Matches d.filename <;> by_cases hhash : hash = d.hash <;> simp [h, hhash]

end Fate

namespace Plan

/-- The names of one fate. -/
def set (p : Plan) : Fate → NameSet
  | .install => p.toInstall
  | .update => p.toUpdate
  | .keep => p.upToDate
  | .skip => p.skipped

/-- Number of all names. -/
def total (p : Plan) : Nat :=
  p.toInstall.size + p.toUpdate.size + p.upToDate.size + p.skipped.size

/-- Nothing is to be fetched and nothing is skipped. -/
structure Settled (p : Plan) : Prop where
  toInstall : p.toInstall = .empty
  toUpdate : p.toUpdate = .empty
  skipped : p.skipped = .empty

instance (p : Plan) : Decidable p.Settled :=
  decidable_of_iff (p.toInstall = .empty ∧ p.toUpdate = .empty ∧ p.skipped = .empty)
    ⟨fun h => ⟨h.1, h.2.1, h.2.2⟩, fun h => ⟨h.1, h.2, h.3⟩⟩

variable {inventory : Inventory} {f : Filter} {name : String}

/-- One more artifact goes into the set of its fate. -/
theorem set_add (p : Plan) (d : Descriptor) (k : Fate) :
    (add inventory f p d).set k =
      if fate inventory f d = k then (p.set k).add d.filename else p.set k := by
  unfold add fate
  split
  · cases k <;> rfl
  · cases inventory.get? d.filename with
    | none => cases k <;> rfl
    | some hash =>
      dsimp only
      split <;> cases k <;> rfl

theorem total_eq (p : Plan) :
    p.total = (p.set .install).size + (p.set .update).size + (p.set .keep).size + (p.set .skip).size :=
  rfl

/-- A new name makes the plan larger by one. -/
theorem total_add (p : Plan) (d : Descriptor) (h : ∀ k, d.filename ∉ p.set k) :
    (add inventory f p d).total = p.total + 1 := by
  have hsize := fun k => NameSet.size_add (h k)
  rw [total_eq, total_eq]
  simp only [set_add]
  cases fate inventory f d <;> simp [hsize] <;> omega

theorem mem_set_foldl (p : Plan) (l : List Descriptor) (k : Fate) :
    name ∈ (l.foldl (add inventory f) p).set k ↔
      name ∈ p.set k ∨ ∃ d ∈ l, d.filename = name ∧ fate inventory f d = k := by
  induction l generalizing p with
  | nil => simp
  | cons d rest ih =>
    rw [List.foldl_cons, ih, set_add]
    by_cases hk : fate inventory f d = k
    · rw [if_pos hk, NameSet.mem_add]
      constructor
      · rintro ((rfl | hp) | ⟨c, hc, hname⟩)
        · exact .inr ⟨d, List.mem_cons_self, rfl, hk⟩
        · exact .inl hp
        · exact .inr ⟨c, List.mem_cons_of_mem _ hc, hname⟩
      · rintro (hp | ⟨c, hc, rfl, hfate⟩)
        · exact .inl (.inr hp)
        · rcases List.mem_cons.1 hc with rfl | hc
          · exact .inl (.inl rfl)
          · exact .inr ⟨c, hc, rfl, hfate⟩
    · rw [if_neg hk]
      constructor
      · rintro (hp | ⟨c, hc, hname⟩)
        · exact .inl hp
        · exact .inr ⟨c, List.mem_cons_of_mem _ hc, hname⟩
      · rintro (hp | ⟨c, hc, rfl, hfate⟩)
        · exact .inl hp
        · rcases List.mem_cons.1 hc with rfl | hc
          · exact absurd hfate hk
          · exact .inr ⟨c, hc, rfl, hfate⟩

theorem total_foldl (p : Plan) (l : List Descriptor) (hnodup : (l.map Descriptor.filename).Nodup)
    (hnew : ∀ d ∈ l, ∀ k, d.filename ∉ p.set k) :
    (l.foldl (add inventory f) p).total = p.total + l.length := by
  induction l generalizing p with
  | nil => rfl
  | cons d rest ih =>
    obtain ⟨hd, hrest⟩ := List.nodup_cons.1 hnodup
    rw [List.foldl_cons, ih (add inventory f p d) hrest, total_add p d (hnew d List.mem_cons_self),
      List.length_cons]
    · omega
    · intro c hc k
      have hold := hnew c (List.mem_cons_of_mem _ hc) k
      rw [set_add]
      split
      · rw [NameSet.mem_add]
        rintro (he | hin)
        · exact hd (he ▸ List.mem_map_of_mem hc)
        · exact hold hin
      · exact hold

/-! ### The plan of a manifest -/

section Between

variable {m : Manifest}

/-- **The sets of a plan are the manifest's names by their fate.** -/
theorem mem_set_between {k : Fate} :
    name ∈ (between m inventory f).set k ↔
      ∃ d ∈ m.artifacts, d.filename = name ∧ fate inventory f d = k := by
  unfold between
  rw [mem_set_foldl]
  refine or_iff_right ?_
  cases k <;> exact NameSet.not_mem_empty

/-- The name of an artifact is in the set of its fate, and in no other. -/
theorem filename_mem_set_iff {d : Descriptor} (hd : d ∈ m.artifacts) {k : Fate} :
    d.filename ∈ (between m inventory f).set k ↔ fate inventory f d = k := by
  rw [mem_set_between]
  constructor
  · rintro ⟨c, hc, hname, hfate⟩
    rwa [← Manifest.eq_of_filename_eq hc hd hname]
  · exact fun hfate => ⟨d, hd, rfl, hfate⟩

/-- Nothing is skipped just if the filter accepts every artifact. -/
theorem names_skipped_eq_nil_iff :
    (between m inventory f).skipped.names = [] ↔ ∀ d ∈ m.artifacts, f.Matches d.filename := by
  rw [List.eq_nil_iff_forall_not_mem]
  constructor
  · intro h d hd
    by_contra hno
    have hskip : d.filename ∈ (between m inventory f).set .skip :=
      (filename_mem_set_iff hd).2 (fate_eq_skip_iff.2 hno)
    exact h _ (NameSet.mem_names_iff.2 hskip)
  · intro h name hname
    obtain ⟨d, hd, rfl, hfate⟩ := mem_set_between (k := .skip).1 (NameSet.mem_names_iff.1 hname)
    exact fate_eq_skip_iff.1 hfate (h d hd)

/-- **Every artifact of the manifest is in exactly one of the sets.** -/
theorem total_between (m : Manifest) (inventory : Inventory) (f : Filter) :
    (between m inventory f).total = m.size := by
  unfold between
  rw [total_foldl _ _ m.nodup_names]
  · rw [Manifest.size]
    exact Nat.zero_add _
  · intro d _ k
    cases k <;> exact NameSet.not_mem_empty

theorem mem_actionable_iff {p : Plan} :
    name ∈ p.actionable ↔ name ∈ p.set .install ∨ name ∈ p.set .update := by
  rw [actionable, List.mem_append, NameSet.mem_names_iff, NameSet.mem_names_iff]
  rfl

theorem length_actionable (p : Plan) :
    p.actionable.length = p.toInstall.size + p.toUpdate.size := by
  rw [actionable, List.length_append, NameMap.length_names, NameMap.length_names]

/-- A converged plan has no name to be fetched. -/
theorem isConverged_iff {p : Plan} : p.IsConverged ↔ ∀ name, name ∉ p.actionable := by
  rw [IsConverged, work, ← length_actionable, List.length_eq_zero_iff, List.eq_nil_iff_forall_not_mem]

/-- No name is to be fetched twice. -/
theorem nodup_actionable (m : Manifest) (inventory : Inventory) (f : Filter) :
    (between m inventory f).actionable.Nodup := by
  refine List.Nodup.append (NameMap.nodup_names _) (NameMap.nodup_names _) ?_
  intro name hinstall hupdate
  obtain ⟨c, hc, rfl, hfate⟩ := mem_set_between (k := .install).1 (NameSet.mem_names_iff.1 hinstall)
  obtain ⟨d, hd, hname, hfate'⟩ := mem_set_between (k := .update).1 (NameSet.mem_names_iff.1 hupdate)
  rw [Manifest.eq_of_filename_eq hd hc hname, hfate] at hfate'
  cases hfate'

theorem map_filename_fetched_actionable (m : Manifest) (inventory : Inventory) (f : Filter) :
    (m.fetched (between m inventory f).actionable).map Descriptor.filename =
      (between m inventory f).actionable := by
  refine Manifest.map_filename_fetched fun name hname => ?_
  rcases mem_actionable_iff.1 hname with h | h
  all_goals
    obtain ⟨d, hd, hfilename, -⟩ := mem_set_between.1 h
    exact ⟨d, hd, hfilename⟩

/-- An artifact is fetched just if it is to be installed or updated. -/
theorem mem_fetched_actionable_iff {d : Descriptor} :
    d ∈ m.fetched (between m inventory f).actionable ↔
      d ∈ m.artifacts ∧ (fate inventory f d = .install ∨ fate inventory f d = .update) := by
  constructor
  · intro h
    have hd := Manifest.mem_of_mem_fetched h
    obtain ⟨name, hname, hget⟩ := List.mem_filterMap.1 h
    obtain ⟨-, rfl⟩ := Manifest.get?_eq_some_iff.1 hget
    rw [mem_actionable_iff, filename_mem_set_iff hd, filename_mem_set_iff hd] at hname
    exact ⟨hd, hname⟩
  · rintro ⟨hd, hfate⟩
    refine List.mem_filterMap.2 ⟨d.filename, ?_, Manifest.get?_eq_some_iff.2 ⟨hd, rfl⟩⟩
    rwa [mem_actionable_iff, filename_mem_set_iff hd, filename_mem_set_iff hd]

/-- What the filter accepts and is not to be fetched is to be kept. -/
theorem fate_eq_keep_of_not_mem {d : Descriptor} (hd : d ∈ m.artifacts) (hmatch : f.Matches d.filename)
    (h : d.filename ∉ (between m inventory f).actionable) : fate inventory f d = .keep := by
  rw [mem_actionable_iff, filename_mem_set_iff hd, filename_mem_set_iff hd, not_or] at h
  cases hfate : fate inventory f d with
  | install => exact absurd hfate h.1
  | update => exact absurd hfate h.2
  | keep => rfl
  | skip => exact absurd hmatch (fate_eq_skip_iff.1 hfate)

theorem eq_empty_of_forall {s : NameSet} (h : ∀ name, name ∉ s) : s = .empty := by
  refine NameMap.ext ?_
  cases hs : s.entries with
  | nil => rfl
  | cons p rest =>
    refine absurd (NameSet.mem_names_iff.1 ?_) (h p.1)
    rw [NameMap.names, hs]
    exact List.mem_cons_self

/-- A plan is settled just if every artifact is to be kept. -/
theorem settled_between_iff :
    (between m inventory f).Settled ↔ ∀ d ∈ m.artifacts, fate inventory f d = .keep := by
  constructor
  · intro h d hd
    have hset : ∀ k, fate inventory f d = k → d.filename ∈ (between m inventory f).set k :=
      fun _ => (filename_mem_set_iff hd).2
    cases hk : fate inventory f d with
    | install =>
      have hin : d.filename ∈ (between m inventory f).toInstall := hset _ hk
      exact absurd (h.toInstall ▸ hin) NameSet.not_mem_empty
    | update =>
      have hin : d.filename ∈ (between m inventory f).toUpdate := hset _ hk
      exact absurd (h.toUpdate ▸ hin) NameSet.not_mem_empty
    | keep => rfl
    | skip =>
      have hin : d.filename ∈ (between m inventory f).skipped := hset _ hk
      exact absurd (h.skipped ▸ hin) NameSet.not_mem_empty
  · intro h
    have hset : ∀ k, k ≠ .keep → (between m inventory f).set k = .empty := by
      intro k hk
      refine eq_empty_of_forall fun name hname => ?_
      obtain ⟨d, hd, -, hfate⟩ := mem_set_between.1 hname
      exact hk (hfate ▸ h d hd)
    exact ⟨hset .install (by simp), hset .update (by simp), hset .skip (by simp)⟩

/-- Where every artifact of the manifest is there with its hash, nothing is to be fetched. -/
theorem fetches_nothing_of_get? (h : ∀ d ∈ m.artifacts, inventory.get? d.filename = some d.hash) :
    (between m inventory f).toInstall = .empty ∧ (between m inventory f).toUpdate = .empty := by
  have hset : ∀ k, k = .install ∨ k = .update → (between m inventory f).set k = .empty := by
    intro k hk
    refine eq_empty_of_forall fun name hname => ?_
    obtain ⟨d, hd, -, hfate⟩ := mem_set_between.1 hname
    by_cases hmatch : f.Matches d.filename
    · have hkeep := fate_eq_keep_iff.2 ⟨hmatch, h d hd⟩
      rcases hk with rfl | rfl <;> simp [hkeep] at hfate
    · have hskip : fate inventory f d = .skip := fate_eq_skip_iff.2 hmatch
      rcases hk with rfl | rfl <;> simp [hskip] at hfate
  exact ⟨hset .install (.inl rfl), hset .update (.inr rfl)⟩

/-- In a settled plan everything is up to date. -/
theorem Settled.size_upToDate (h : (between m inventory f).Settled) :
    (between m inventory f).upToDate.size = m.size := by
  have htotal := total_between m inventory f
  rw [total, h.toInstall, h.toUpdate, h.skipped] at htotal
  have hempty : NameMap.size (.empty : NameSet) = 0 := rfl
  omega

theorem Settled.actionable {p : Plan} (h : p.Settled) : p.actionable = [] := by
  rw [Plan.actionable, h.toInstall, h.toUpdate]
  rfl

end Between

end Plan

end FolderSync
