import FolderSync.NameMap
import Mathlib.Data.List.Induction
import Mathlib.Data.List.Nodup
import Mathlib.Data.List.Sort
import Mathlib.Tactic.Common

/-!
# What maps of names hold

* `mem_names_iff`, `pairwise_names`: the listing of a map has each of its names once, in order.
* `eq_of_get?`: a map is determined by the values of its names.
* `get?_ofList_iff`: a list that gives no name two values is looked up in its map.
* `size_insert`: a new name makes the map larger by one.
* `NameSet.eq_of_mem_iff`: a set is determined by its members.
* `insertAll`: the pairs of a list put into a map, one after the other.
-/

namespace FolderSync

variable {α : Type}

theorem valueOf?_isSome_iff {name : String} {l : List (String × α)} :
    (valueOf? name l).isSome = true ↔ name ∈ l.map Prod.fst := by
  induction l with
  | nil => simp [valueOf?]
  | cons p rest ih =>
    obtain ⟨n, v⟩ := p
    rw [valueOf?, List.map_cons, List.mem_cons, ← ih]
    split
    · rename_i hn
      simp [hn]
    · rename_i hn
      simp [hn]

theorem mem_of_valueOf?_eq {name : String} {value : α} {l : List (String × α)}
    (h : valueOf? name l = some value) : (name, value) ∈ l := by
  induction l with
  | nil => cases h
  | cons p rest ih =>
    obtain ⟨n, v⟩ := p
    rw [valueOf?] at h
    split at h
    · rename_i hname
      cases h
      exact hname ▸ List.mem_cons_self
    · exact List.mem_cons_of_mem _ (ih h)

theorem length_putEntry {name : String} (value : α) {l : List (String × α)}
    (h : name ∉ l.map Prod.fst) : (putEntry name value l).length = l.length + 1 := by
  induction l with
  | nil => rfl
  | cons p rest ih =>
    obtain ⟨n, v⟩ := p
    rw [List.map_cons, List.mem_cons, not_or] at h
    rw [putEntry, if_neg h.1]
    split
    · rfl
    · rw [List.length_cons, ih h.2, List.length_cons]

/-- A name behind all others is put at the end. -/
theorem putEntry_of_forall_lt {name : String} {value : α} {l : List (String × α)}
    (h : ∀ p ∈ l, byteLt p.1 name) : putEntry name value l = l ++ [(name, value)] := by
  induction l with
  | nil => rfl
  | cons p rest ih =>
    obtain ⟨n, v⟩ := p
    have hlt : byteLt n name := h (n, v) List.mem_cons_self
    have hne : name ≠ n := by
      rintro rfl
      exact byteLt_irrefl name hlt
    have hnot : ¬ byteLt name n := fun hgt => byteLt_irrefl name (byteLt_trans hgt hlt)
    rw [putEntry, if_neg hne, if_neg hnot, ih fun p hp => h p (List.mem_cons_of_mem _ hp)]
    rfl

namespace NameMap

variable {m : NameMap α} {name : String} {value : α}

theorem mem_names_iff : name ∈ m.names ↔ (m.get? name).isSome = true :=
  valueOf?_isSome_iff.symm

/-- A map lists its names in order. -/
theorem pairwise_names (m : NameMap α) : m.names.Pairwise byteLt :=
  List.pairwise_map.2 m.inOrder

theorem nodup_names (m : NameMap α) : m.names.Nodup := by
  refine m.pairwise_names.imp fun {a b} h => ?_
  rintro rfl
  exact byteLt_irrefl a h

theorem length_names (m : NameMap α) : m.names.length = m.size := List.length_map ..

/-- The pairs of a map are its names with their values. -/
theorem mem_entries_iff : (name, value) ∈ m.entries ↔ m.get? name = some value := by
  refine ⟨fun h => ?_, mem_of_valueOf?_eq⟩
  have hname : name ∈ m.names := List.mem_map_of_mem h
  obtain ⟨other, hother⟩ := Option.isSome_iff_exists.1 (mem_names_iff.1 hname)
  -- no name stands in two pairs
  have hsame := List.inj_on_of_nodup_map m.nodup_names (mem_of_valueOf?_eq hother) h rfl
  rw [hother, (Prod.mk.inj hsame).2]

/-- A map is determined by the values of its names. -/
theorem eq_of_get? {n : NameMap α} (h : ∀ name, m.get? name = n.get? name) : m = n := by
  let before : String × α → String × α → Prop := fun p q => byteLt p.1 q.1
  have : Std.Irrefl before := ⟨fun p => byteLt_irrefl p.1⟩
  have : Std.Antisymm before :=
    ⟨fun p q hpq hqp => absurd (byteLt_trans hpq hqp) (byteLt_irrefl p.1)⟩
  refine ext (m.inOrder.eq_of_mem_iff n.inOrder fun p => ?_)
  obtain ⟨name, value⟩ := p
  rw [mem_entries_iff, mem_entries_iff, h]

theorem size_insert (h : m.get? name = none) : (m.insert name value).size = m.size + 1 := by
  have hnew : name ∉ m.entries.map Prod.fst := by
    rw [← valueOf?_isSome_iff, show valueOf? name m.entries = none from h]
    simp
  exact length_putEntry value hnew

/-- A list that gives no name two values is looked up in its map. -/
theorem get?_ofList_iff {pairs : List (String × α)}
    (h : ∀ n v w, (n, v) ∈ pairs → (n, w) ∈ pairs → v = w) :
    (ofList pairs).get? name = some value ↔ (name, value) ∈ pairs := by
  induction pairs using List.reverseRecOn with
  | nil =>
    show (empty : NameMap α).get? name = some value ↔ _
    simp
  | append_singleton front last ih =>
    obtain ⟨n, v⟩ := last
    have hfront := ih fun n v w hv hw =>
      h n v w (List.mem_append_left _ hv) (List.mem_append_left _ hw)
    rw [ofList_concat, get?_insert, List.mem_append, List.mem_singleton, Prod.mk.injEq]
    dsimp only
    by_cases hn : name = n
    · subst hn
      rw [if_pos rfl, Option.some.injEq]
      constructor
      · rintro rfl
        exact .inr ⟨rfl, rfl⟩
      · rintro (hold | ⟨-, rfl⟩)
        · -- an earlier pair for the same name has the same value
          exact h name v value (by simp) (List.mem_append_left _ hold)
        · rfl
    · rw [if_neg hn, hfront]
      constructor
      · exact fun hold => .inl hold
      · rintro (hold | ⟨rfl, -⟩)
        · exact hold
        · exact absurd rfl hn

/-! ### Many pairs -/

/-- The map with the pairs of a list put into it; of two values under one name the later stays. -/
def insertAll (m : NameMap α) (pairs : List (String × α)) : NameMap α :=
  pairs.foldl (fun m p => m.insert p.1 p.2) m

variable {pairs : List (String × α)}

theorem insertAll_concat (m : NameMap α) (pairs : List (String × α)) (p : String × α) :
    m.insertAll (pairs ++ [p]) = (m.insertAll pairs).insert p.1 p.2 := by
  simp [insertAll, List.foldl_append]

/-- Other names keep their values. -/
theorem get?_insertAll_of_notMem (h : name ∉ pairs.map Prod.fst) :
    (m.insertAll pairs).get? name = m.get? name := by
  induction pairs using List.reverseRecOn with
  | nil => rfl
  | append_singleton front last ih =>
    rw [List.map_append, List.mem_append, not_or] at h
    have hlast : name ≠ last.1 := fun he => h.2 (by simp [he])
    rw [insertAll_concat, get?_insert, if_neg hlast, ih h.1]

/-- A name that is put in has one of the values that it is put in with. -/
theorem exists_get?_insertAll (h : name ∈ pairs.map Prod.fst) :
    ∃ value, (name, value) ∈ pairs ∧ (m.insertAll pairs).get? name = some value := by
  induction pairs using List.reverseRecOn with
  | nil => cases h
  | append_singleton front last ih =>
    rw [insertAll_concat, get?_insert]
    by_cases hlast : name = last.1
    · exact ⟨last.2, by simp [hlast], if_pos hlast⟩
    · have hfront : name ∈ front.map Prod.fst := by simpa [hlast] using h
      obtain ⟨value, hmem, hget⟩ := ih hfront
      exact ⟨value, List.mem_append_left _ hmem, by rw [if_neg hlast, hget]⟩

end NameMap

namespace NameSet

variable {s : NameSet} {name : String}

theorem mem_names_iff : name ∈ NameMap.names s ↔ name ∈ s := NameMap.mem_names_iff

theorem size_add (h : name ∉ s) : NameMap.size (s.add name) = NameMap.size s + 1 := by
  refine NameMap.size_insert ?_
  cases hname : NameMap.get? s name with
  | none => rfl
  | some u => exact absurd (show (NameMap.get? s name).isSome = true by rw [hname]; rfl) h

theorem not_mem_empty : name ∉ (.empty : NameSet) := by
  intro h
  exact Bool.false_ne_true h

/-- A set is determined by its members. -/
theorem eq_of_mem_iff {t : NameSet} (h : ∀ name, name ∈ s ↔ name ∈ t) : s = t := by
  refine NameMap.eq_of_get? fun name => ?_
  have hname : (NameMap.get? s name).isSome = true ↔ (NameMap.get? t name).isSome = true := h name
  cases hs : NameMap.get? s name <;> cases ht : NameMap.get? t name <;> simp_all

end NameSet

end FolderSync
