import Mathlib.Data.List.Nodup

/-!
# Lookups in lists of pairs

Where no key stands twice, what is found under a key is what stands beside it (`lookup_eq_some_iff_mem`),
and so the order of the pairs does not matter (`SameUnder.lookup_eq`).
-/

namespace FolderSync

variable {α β : Type} [DecidableEq α] {key : α} {value : β} {pairs pairs' : List (α × β)}

theorem mem_of_lookup (h : pairs.lookup key = some value) : (key, value) ∈ pairs := by
  obtain ⟨front, back, rfl, -⟩ := List.lookup_eq_some_iff.1 h
  simp

theorem exists_lookup_of_mem {x : α × β} (h : x ∈ pairs) : ∃ value, pairs.lookup x.1 = some value := by
  cases hlookup : pairs.lookup x.1 with
  | none => exact absurd h (by simpa using List.lookup_eq_none_iff.1 hlookup x)
  | some value => exact ⟨value, rfl⟩

/-- The value of a key that stands once. -/
theorem lookup_of_mem (hnodup : (pairs.map Prod.fst).Nodup) (h : (key, value) ∈ pairs) :
    pairs.lookup key = some value := by
  obtain ⟨other, hlookup⟩ := exists_lookup_of_mem h
  have hpair := List.inj_on_of_nodup_map hnodup (mem_of_lookup hlookup) h rfl
  rw [hlookup, (Prod.mk.inj hpair).2]

theorem lookup_eq_some_iff_mem (hnodup : (pairs.map Prod.fst).Nodup) :
    pairs.lookup key = some value ↔ (key, value) ∈ pairs :=
  ⟨mem_of_lookup, lookup_of_mem hnodup⟩

/-- The pairs with these keys are the same, in some order. -/
def SameUnder (keys : List α) (pairs pairs' : List (α × β)) : Prop :=
  (pairs.filter fun p => p.1 ∈ keys).Perm (pairs'.filter fun p => p.1 ∈ keys)

theorem SameUnder.lookup_eq {keys : List α} (h : SameUnder keys pairs pairs') (key : α)
    (hkey : key ∈ keys) (hnodup : (pairs.map Prod.fst).Nodup) (hnodup' : (pairs'.map Prod.fst).Nodup) :
    pairs.lookup key = pairs'.lookup key := by
  refine Option.ext fun v => ?_
  have hmem := h.mem_iff (a := (key, v))
  simpa only [lookup_eq_some_iff_mem hnodup, lookup_eq_some_iff_mem hnodup', List.mem_filter, hkey,
    decide_true, and_true] using hmem

end FolderSync
