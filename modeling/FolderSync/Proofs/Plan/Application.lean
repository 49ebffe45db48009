import FolderSync.Proofs.Plan.Partition

/-!
# Plans after part of the work

When some of a plan's names have been given their hashes in the inventory, and perhaps some others a
wrong one, a new plan differs from the old in just these names (`between_applied`): what was done right
is up to date, what was done wrong is to be updated.  Nothing is left to be done only when all of it was
done right.

* `Manifest.hashes`: the entries of an inventory for artifacts that were installed.
* `fate_applied`: the new fate of each artifact.
-/

namespace FolderSync

/-- The hashes of the manifest for the given names. -/
def Manifest.hashes (m : Manifest) (names : List String) : List (String × ContentHash) :=
  (m.fetched names).map fun d => (d.filename, d.hash)

variable {m : Manifest} {inventory : Inventory} {f : Filter} {done : List String}
  {others : List (String × ContentHash)} {d : Descriptor}

theorem Manifest.mem_hashes_iff {name : String} {hash : ContentHash} :
    (name, hash) ∈ m.hashes done ↔ name ∈ done ∧ ∃ d ∈ m.artifacts, d.filename = name ∧ d.hash = hash := by
  rw [hashes, List.mem_map]
  constructor
  · rintro ⟨d, hd, he⟩
    obtain ⟨rfl, rfl⟩ := Prod.mk.inj he
    obtain ⟨name, hname, hget⟩ := List.mem_filterMap.1 hd
    obtain ⟨hmem, rfl⟩ := get?_eq_some_iff.1 hget
    exact ⟨hname, d, hmem, rfl, rfl⟩
  · rintro ⟨hname, d, hd, rfl, rfl⟩
    exact ⟨d, List.mem_filterMap.2 ⟨_, hname, get?_eq_some_iff.2 ⟨hd, rfl⟩⟩, rfl⟩

theorem Manifest.mem_map_hashes_iff (hd : d ∈ m.artifacts) :
    d.filename ∈ (m.hashes done).map Prod.fst ↔ d.filename ∈ done := by
  rw [List.mem_map]
  constructor
  · rintro ⟨⟨name, hash⟩, hmem, rfl⟩
    exact (mem_hashes_iff.1 hmem).1
  · intro hname
    exact ⟨_, mem_hashes_iff.2 ⟨hname, d, hd, rfl, rfl⟩, rfl⟩

namespace Plan

/-- The inventory in which the names in `done` have been given the hashes of the manifest, and then
the pairs in `others` have been put in. -/
def applied (m : Manifest) (inventory : Inventory) (done : List String)
    (others : List (String × ContentHash)) : Inventory :=
  (inventory.insertAll (m.hashes done)).insertAll others

section Applied

variable (hdone : ∀ name ∈ done, name ∈ (between m inventory f).actionable)
  (hothers : ∀ pair ∈ others, pair.1 ∈ (between m inventory f).actionable ∧ pair.1 ∉ done ∧
    ∀ d ∈ m.artifacts, d.filename = pair.1 → pair.2 ≠ d.hash)

theorem exists_of_actionable {name : String} (h : name ∈ (between m inventory f).actionable) :
    ∃ d ∈ m.artifacts, d.filename = name := by
  rcases mem_actionable_iff.1 h with hset | hset <;>
  · obtain ⟨d, hd, hname, -⟩ := mem_set_between.1 hset
    exact ⟨d, hd, hname⟩

/-- The filter accepts what is to be fetched. -/
theorem matches_of_actionable (hd : d ∈ m.artifacts)
    (h : d.filename ∈ (between m inventory f).actionable) : f.Matches d.filename := by
  rw [mem_actionable_iff, filename_mem_set_iff hd, filename_mem_set_iff hd] at h
  rcases h with h | h
  · exact (fate_eq_install_iff.1 h).1
  · exact (fate_eq_update_iff.1 h).1

include hdone hothers

/-- **What is to be done with an artifact after part of the work.** -/
theorem fate_applied (hd : d ∈ m.artifacts) : fate (applied m inventory done others) f d =
    if d.filename ∈ done then .keep
    else if d.filename ∈ others.map Prod.fst then .update else fate inventory f d := by
  by_cases hother : d.filename ∈ others.map Prod.fst
  · -- the last hash put in is one of the others, and none of those is right
    obtain ⟨hash, hpair, hget⟩ := NameMap.exists_get?_insertAll
      (m := inventory.insertAll (m.hashes done)) hother
    obtain ⟨hactionable, hnot, hwrong⟩ := hothers _ hpair
    rw [if_neg hnot, if_pos hother, fate_eq_update_iff]
    exact ⟨matches_of_actionable hd hactionable, hash, hget, hwrong d hd rfl⟩
  · have hkept : (applied m inventory done others).get? d.filename =
        (inventory.insertAll (m.hashes done)).get? d.filename := NameMap.get?_insertAll_of_notMem hother
    rw [if_neg hother]
    by_cases hname : d.filename ∈ done
    · obtain ⟨hash, hpair, hget⟩ := NameMap.exists_get?_insertAll (m := inventory)
        ((Manifest.mem_map_hashes_iff hd).2 hname)
      obtain ⟨-, c, hc, hcd, rfl⟩ := Manifest.mem_hashes_iff.1 hpair
      obtain rfl := Manifest.eq_of_filename_eq hc hd hcd
      rw [if_pos hname, fate_eq_keep_iff, hkept]
      exact ⟨matches_of_actionable hd (hdone _ hname), hget⟩
    · rw [if_neg hname]
      refine fate_congr (hkept.trans ?_)
      exact NameMap.get?_insertAll_of_notMem (mt (Manifest.mem_map_hashes_iff hd).1 hname)

theorem mem_set_applied_iff {name : String} {k : Fate} :
    name ∈ (between m (applied m inventory done others) f).set k ↔
      ∃ d ∈ m.artifacts, d.filename = name ∧ (if name ∈ done then .keep
        else if name ∈ others.map Prod.fst then .update else fate inventory f d) = k := by
  rw [mem_set_between]
  refine exists_congr fun d => and_congr_right fun hd => and_congr_right fun hname => ?_
  rw [fate_applied hdone hothers hd, hname]

theorem mem_toInstall_applied_iff {name : String} :
    name ∈ (between m (applied m inventory done others) f).set .install ↔
      name ∈ (between m inventory f).set .install ∧ name ∉ done ∧ name ∉ others.map Prod.fst := by
  rw [mem_set_applied_iff hdone hothers, mem_set_between]
  constructor
  · rintro ⟨d, hd, hfilename, hfate⟩
    split_ifs at hfate with hname hother
    exact ⟨⟨d, hd, hfilename, hfate⟩, hname, hother⟩
  · rintro ⟨⟨d, hd, hfilename, hfate⟩, hname, hother⟩
    exact ⟨d, hd, hfilename, by rw [if_neg hname, if_neg hother, hfate]⟩

/-- The names in `others` are to be updated, whether they were to be installed or to be updated. -/
theorem mem_toUpdate_applied_iff {name : String} :
    name ∈ (between m (applied m inventory done others) f).set .update ↔
      (name ∈ (between m inventory f).set .update ∧ name ∉ done) ∨ name ∈ others.map Prod.fst := by
  rw [mem_set_applied_iff hdone hothers, mem_set_between]
  constructor
  · rintro ⟨d, hd, hfilename, hfate⟩
    split_ifs at hfate with hname hother
    · exact .inr hother
    · exact .inl ⟨⟨d, hd, hfilename, hfate⟩, hname⟩
  · intro h
    by_cases hother : name ∈ others.map Prod.fst
    · obtain ⟨pair, hpair, rfl⟩ := List.mem_map.1 hother
      obtain ⟨hactionable, hname, -⟩ := hothers pair hpair
      obtain ⟨d, hd, hfilename⟩ := exists_of_actionable hactionable
      exact ⟨d, hd, hfilename, by rw [if_neg hname, if_pos hother]⟩
    · obtain ⟨⟨d, hd, hfilename, hfate⟩, hname⟩ := h.resolve_right hother
      exact ⟨d, hd, hfilename, by rw [if_neg hname, if_neg hother, hfate]⟩

theorem mem_upToDate_applied_iff {name : String} :
    name ∈ (between m (applied m inventory done others) f).set .keep ↔
      name ∈ (between m inventory f).set .keep ∨ name ∈ done := by
  rw [mem_set_applied_iff hdone hothers, mem_set_between]
  constructor
  · rintro ⟨d, hd, hfilename, hfate⟩
    split_ifs at hfate with hname hother
    · exact .inr hname
    · exact .inl ⟨d, hd, hfilename, hfate⟩
  · intro h
    by_cases hname : name ∈ done
    · obtain ⟨d, hd, hfilename⟩ := exists_of_actionable (hdone name hname)
      exact ⟨d, hd, hfilename, by rw [if_pos hname]⟩
    · obtain ⟨d, hd, rfl, hfate⟩ := h.resolve_right hname
      have hother : d.filename ∉ others.map Prod.fst := by
        -- what is up to date is not to be fetched
        intro hother
        obtain ⟨pair, hpair, hpairname⟩ := List.mem_map.1 hother
        have hactionable := (hothers pair hpair).1
        rw [hpairname, mem_actionable_iff, filename_mem_set_iff hd, filename_mem_set_iff hd,
          hfate] at hactionable
        simp at hactionable
      exact ⟨d, hd, rfl, by rw [if_neg hname, if_neg hother, hfate]⟩

/-- Nothing is left to be done only when all was done right. -/
theorem isConverged_applied_iff : (between m (applied m inventory done others) f).IsConverged ↔
    ∀ name ∈ (between m inventory f).actionable, name ∈ done := by
  rw [isConverged_iff]
  constructor
  · intro h name hname
    by_contra hnot
    rw [mem_actionable_iff] at hname
    by_cases hother : name ∈ others.map Prod.fst
    · exact h name (mem_actionable_iff.2 (.inr ((mem_toUpdate_applied_iff hdone hothers).2 (.inr hother))))
    · refine h name (mem_actionable_iff.2 (hname.imp (fun hset => ?_) fun hset => ?_))
      · exact (mem_toInstall_applied_iff hdone hothers).2 ⟨hset, hnot, hother⟩
      · exact (mem_toUpdate_applied_iff hdone hothers).2 (.inl ⟨hset, hnot⟩)
  · intro h name hname
    rcases mem_actionable_iff.1 hname with hset | hset
    · obtain ⟨hold, hnot, -⟩ := (mem_toInstall_applied_iff hdone hothers).1 hset
      exact hnot (h name (mem_actionable_iff.2 (.inl hold)))
    · rcases (mem_toUpdate_applied_iff hdone hothers).1 hset with ⟨hold, hnot⟩ | hother
      · exact hnot (h name (mem_actionable_iff.2 (.inr hold)))
      · obtain ⟨pair, hpair, rfl⟩ := List.mem_map.1 hother
        obtain ⟨hactionable, hnot, -⟩ := hothers pair hpair
        exact hnot (h _ hactionable)

end Applied

/-- **Partial work moves just what was done.**  Names that are given the manifest's hash go from the
sets to be fetched to the set of what is up to date; names that are given another hash are to be
updated.  Nothing else moves, and the new plan is converged just if all names were given their hash. -/
theorem between_applied (m : Manifest) (inventory : Inventory) (f : Filter) (done : List String)
    (others : List (String × ContentHash))
    (hdone : ∀ name ∈ done, name ∈ (between m inventory f).actionable)
    (hothers : ∀ pair ∈ others, pair.1 ∈ (between m inventory f).actionable ∧ pair.1 ∉ done ∧
      ∀ d ∈ m.artifacts, d.filename = pair.1 → pair.2 ≠ d.hash) :
    let p := between m inventory f
    let q := between m (applied m inventory done others) f
    (∀ name, name ∈ q.toInstall ↔
      name ∈ p.toInstall ∧ name ∉ done ∧ name ∉ others.map Prod.fst) ∧
    (∀ name, name ∈ q.toUpdate ↔ (name ∈ p.toUpdate ∧ name ∉ done) ∨ name ∈ others.map Prod.fst) ∧
    (∀ name, name ∈ q.upToDate ↔ name ∈ p.upToDate ∨ name ∈ done) ∧
    q.skipped = p.skipped ∧
    (q.IsConverged ↔ ∀ name ∈ p.actionable, name ∈ done) := by
  refine ⟨fun _ => mem_toInstall_applied_iff hdone hothers,
    fun _ => mem_toUpdate_applied_iff hdone hothers, fun _ => mem_upToDate_applied_iff hdone hothers,
    NameSet.eq_of_mem_iff fun name => ?_, isConverged_applied_iff hdone hothers⟩
  rw [mem_skipped_between_iff, mem_skipped_between_iff]

/-- One artifact has been updated, and another installed with the empty content. -/
theorem between_applied_assorted :
    let p := between .assorted Inventory.assorted {}
    let done := ["blockcraft-b.jar"]
    let others := [("blockcraft-a.jar", ContentHash.of [])]
    let q := between .assorted (applied .assorted Inventory.assorted done others) {}
    (∀ name ∈ done, name ∈ p.actionable) ∧
    (∀ pair ∈ others, pair.1 ∈ p.actionable ∧ pair.1 ∉ done ∧
      ∀ d ∈ Manifest.assorted.artifacts, d.filename = pair.1 → pair.2 ≠ d.hash) ∧
    (∀ name, name ∈ q.toInstall ↔ name ∈ p.toInstall ∧ name ∉ done ∧ name ∉ others.map Prod.fst) ∧
    (∀ name, name ∈ q.toUpdate ↔ (name ∈ p.toUpdate ∧ name ∉ done) ∨ name ∈ others.map Prod.fst) ∧
    (∀ name, name ∈ q.upToDate ↔ name ∈ p.upToDate ∨ name ∈ done) ∧
    q.skipped = p.skipped ∧
    (q.IsConverged ↔ ∀ name ∈ p.actionable, name ∈ done) := by
  intro p done others q
  have hdone : ∀ name ∈ done, name ∈ p.actionable := by decide +kernel
  have hothers : ∀ pair ∈ others, pair.1 ∈ p.actionable ∧ pair.1 ∉ done ∧
      ∀ d ∈ Manifest.assorted.artifacts, d.filename = pair.1 → pair.2 ≠ d.hash := by
    decide +kernel
  exact ⟨hdone, hothers, between_applied .assorted Inventory.assorted {} done others hdone hothers⟩

end Plan

end FolderSync
