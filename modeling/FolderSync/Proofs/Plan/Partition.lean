import FolderSync.Proofs.Manifest.Format
import FolderSync.Proofs.Plan

/-!
# A plan is a partition

Every artifact of a manifest is in exactly one of a plan's four sets, which the filter and the
inventory's entry for its name decide; the sets hold nothing else (`between_partition`).

* `between_eq_of_perm`: the order of the manifest's entries does not matter.
* `between_congr`: nor does what the inventory says of names that the manifest does not list or the
  filter does not accept.
-/

namespace FolderSync

namespace Plan

variable {m n : Manifest} {inventory other : Inventory} {f : Filter} {name : String}

/-- A plan is determined by what is in its sets. -/
theorem eq_of_mem_set_iff {p q : Plan} (h : ∀ k name, name ∈ p.set k ↔ name ∈ q.set k) : p = q := by
  have hset : ∀ k, p.set k = q.set k := fun k => NameSet.eq_of_mem_iff (h k)
  cases p
  cases q
  exact mk.injEq .. ▸ ⟨hset .install, hset .update, hset .keep, hset .skip⟩

/-- Plans for the same artifacts are the same, if they have the same fates. -/
theorem between_eq_of_mem_iff (hartifacts : ∀ d, d ∈ n.artifacts ↔ d ∈ m.artifacts)
    (hfate : ∀ d ∈ m.artifacts, fate other f d = fate inventory f d) :
    between n other f = between m inventory f := by
  refine eq_of_mem_set_iff fun k name => ?_
  rw [mem_set_between, mem_set_between]
  refine exists_congr fun d => ?_
  rw [hartifacts]
  refine and_congr_right fun hd => ?_
  rw [hfate d hd]

/-- The order of the entries does not matter. -/
theorem between_eq_of_perm (h : n.artifacts.Perm m.artifacts) :
    between n inventory f = between m inventory f :=
  between_eq_of_mem_iff (fun _ => h.mem_iff) fun _ _ => rfl

/-- Of the inventory only the entries of accepted artifacts matter. -/
theorem between_congr
    (h : ∀ d ∈ m.artifacts, f.Matches d.filename → other.get? d.filename = inventory.get? d.filename) :
    between m other f = between m inventory f := by
  refine between_eq_of_mem_iff (fun _ => Iff.rfl) fun d hd => ?_
  by_cases hmatch : f.Matches d.filename
  · exact fate_congr (h d hd hmatch)
  · rw [fate_eq_skip_iff.2 hmatch, fate_eq_skip_iff.2 hmatch]

/-- The names of one fate, if the fate is a condition on the artifact. -/
theorem mem_set_between_iff {k : Fate} {P : Descriptor → Prop}
    (h : ∀ d, fate inventory f d = k ↔ f.Matches d.filename ∧ P d) :
    name ∈ (between m inventory f).set k ↔
      f.Matches name ∧ ∃ d ∈ m.artifacts, d.filename = name ∧ P d := by
  rw [mem_set_between]
  constructor
  · rintro ⟨d, hd, rfl, hfate⟩
    obtain ⟨hmatch, hP⟩ := (h d).1 hfate
    exact ⟨hmatch, d, hd, rfl, hP⟩
  · rintro ⟨hmatch, d, hd, rfl, hP⟩
    exact ⟨d, hd, rfl, (h d).2 ⟨hmatch, hP⟩⟩

theorem mem_skipped_between_iff : name ∈ (between m inventory f).skipped ↔
    ¬ f.Matches name ∧ ∃ d ∈ m.artifacts, d.filename = name := by
  show name ∈ (between m inventory f).set .skip ↔ _
  rw [mem_set_between]
  constructor
  · rintro ⟨d, hd, rfl, hfate⟩
    exact ⟨fate_eq_skip_iff.1 hfate, d, hd, rfl⟩
  · rintro ⟨hmatch, d, hd, rfl⟩
    exact ⟨d, hd, rfl, fate_eq_skip_iff.2 hmatch⟩

/-- How a plan sorts the names of a manifest. -/
structure Sorts (m : Manifest) (inventory : Inventory) (f : Filter) (p : Plan) : Prop where
  skipped : ∀ name, name ∈ p.skipped ↔ ¬ f.Matches name ∧ ∃ d ∈ m.artifacts, d.filename = name
  toInstall : ∀ name, name ∈ p.toInstall ↔
    f.Matches name ∧ ∃ d ∈ m.artifacts, d.filename = name ∧ inventory.get? d.filename = none
  upToDate : ∀ name, name ∈ p.upToDate ↔
    f.Matches name ∧ ∃ d ∈ m.artifacts, d.filename = name ∧ inventory.get? d.filename = some d.hash
  toUpdate : ∀ name, name ∈ p.toUpdate ↔ f.Matches name ∧ ∃ d ∈ m.artifacts, d.filename = name ∧
    ∃ hash, inventory.get? d.filename = some hash ∧ hash ≠ d.hash
  /-- Every artifact is in one set and in no other. -/
  unique : ∀ d ∈ m.artifacts, ∃! k, d.filename ∈ p.set k
  total : p.toInstall.size + p.toUpdate.size + p.upToDate.size + p.skipped.size = m.size

/-- **A plan sorts the names of the manifest into four sets,** each name into exactly one of them.  The
plan is the same for every order of the entries, and for every inventory that says the same of the
listed names that the filter accepts. -/
theorem between_partition (m : Manifest) (inventory : Inventory) (f : Filter) :
    (between m inventory f).Sorts m inventory f ∧
    (∀ entries : List Descriptor, entries.Perm m.artifacts → ∃ n, Manifest.ofArtifacts entries = .ok n ∧
      n.artifacts = entries ∧ between n inventory f = between m inventory f) ∧
    ∀ other : Inventory,
      (∀ d ∈ m.artifacts, f.Matches d.filename →
        other.get? d.filename = inventory.get? d.filename) →
      between m other f = between m inventory f := by
  refine ⟨⟨fun _ => mem_skipped_between_iff, fun _ => mem_set_between_iff fun _ => fate_eq_install_iff,
    fun _ => mem_set_between_iff fun _ => fate_eq_keep_iff,
    fun _ => mem_set_between_iff fun _ => fate_eq_update_iff, fun d hd => ?_,
    total_between m inventory f⟩, fun entries hperm => ?_, fun other h => between_congr h⟩
  · refine ⟨fate inventory f d, (filename_mem_set_iff hd).2 rfl, fun k hk => ?_⟩
    exact ((filename_mem_set_iff hd).1 hk).symm
  · have hnodup : (entries.map Descriptor.filename).Nodup :=
      (hperm.map _).nodup_iff.2 m.nodup_names
    exact ⟨⟨entries, hnodup⟩, Manifest.ofArtifacts_eq_ok_iff.2 rfl, rfl, between_eq_of_perm hperm⟩

end Plan

/-! ### Artifacts of all fates -/

/-- Four artifacts with one content; the default filter does not accept the last. -/
def Manifest.assorted : Manifest :=
  ((["blockcraft-a.jar", "blockcraft-b.jar", "blockcraft-c.jar", "readme.txt"].mapM fun name =>
    Descriptor.of name "a9993e364706816aba3e25717850c26c9cd0d89d" "http://[::1]/") >>=
      ofArtifacts).toOption.get (by decide +kernel)

/-- The second is there with the empty content, the third as it should be. -/
def Inventory.assorted : Inventory :=
  .ofList [("blockcraft-b.jar", .of []), ("blockcraft-c.jar", .of (utf8 "abc"))]

namespace Plan

theorem between_partition_assorted :
    (between .assorted Inventory.assorted {}).Sorts .assorted Inventory.assorted {} ∧
    (Manifest.assorted.artifacts.reverse.Perm Manifest.assorted.artifacts ∧
      ∃ n, Manifest.ofArtifacts Manifest.assorted.artifacts.reverse = .ok n ∧
        n.artifacts = Manifest.assorted.artifacts.reverse ∧
        between n Inventory.assorted {} = between .assorted Inventory.assorted {}) ∧
    between .assorted (NameMap.insert Inventory.assorted "readme.txt" (.of [])) {} =
      between .assorted Inventory.assorted {} := by
  obtain ⟨hsorts, hreordered, hother⟩ := between_partition .assorted Inventory.assorted {}
  have hperm := Manifest.assorted.artifacts.reverse_perm
  refine ⟨hsorts, ⟨hperm, hreordered _ hperm⟩, hother _ ?_⟩
  decide +kernel

end Plan

end FolderSync
