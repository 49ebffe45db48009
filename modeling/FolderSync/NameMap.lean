import FolderSync.Bytes

/-!
# Maps and sets of names

A `NameMap α` holds one value for each of finitely many texts, in increasing order of their UTF-8
bytes; a `NameSet` holds the texts alone.  The order is part of the type, so two maps with the same
content are equal, and a listing never depends on the order of insertion.
-/

namespace FolderSync

theorem byteLt_irrefl (s : String) : ¬ byteLt s s := List.lt_irrefl (utf8 s)

theorem byteLt_trans {s t u : String} (h : byteLt s t) (g : byteLt t u) : byteLt s u :=
  List.lt_trans h g

/-- Of two different texts one comes first. -/
theorem byteLt_or_byteLt {s t : String} (h : s ≠ t) : byteLt s t ∨ byteLt t s := by
  by_cases hs : byteLt s t
  · exact .inl hs
  · by_cases ht : byteLt t s
    · exact .inr ht
    · exact absurd (utf8_injective (List.le_antisymm (List.not_lt.1 ht) (List.not_lt.1 hs))) h

/-! ### Ordered lists of pairs -/

/-- Puts a value under its name; an earlier value of that name gives way. -/
def putEntry (name : String) (value : α) : List (String × α) → List (String × α)
  | [] => [(name, value)]
  | (n, v) :: rest =>
    if name = n then (name, value) :: rest
    else if byteLt name n then (name, value) :: (n, v) :: rest
    else (n, v) :: putEntry name value rest

/-- The value under a name. -/
def valueOf? (name : String) : List (String × α) → Option α
  | [] => none
  | (n, v) :: rest => if name = n then some v else valueOf? name rest

theorem mem_putEntry {name : String} {value : α} {p : String × α} {l : List (String × α)}
    (h : p ∈ putEntry name value l) : p = (name, value) ∨ p ∈ l := by
  induction l with
  | nil => simpa [putEntry] using h
  | cons q rest ih =>
    obtain ⟨n, v⟩ := q
    rw [putEntry] at h
    split at h
    · rcases List.mem_cons.1 h with h | h
      · exact .inl h
      · exact .inr (List.mem_cons_of_mem _ h)
    · split at h
      · exact List.mem_cons.1 h
      · rcases List.mem_cons.1 h with h | h
        · exact .inr (h ▸ List.mem_cons_self)
        · rcases ih h with h | h
          · exact .inl h
          · exact .inr (List.mem_cons_of_mem _ h)

/-- Names in strictly increasing order. -/
def InOrder (l : List (String × α)) : Prop := l.Pairwise fun p q => byteLt p.1 q.1

theorem InOrder.putEntry {name : String} {value : α} {l : List (String × α)} (h : InOrder l) :
    InOrder (putEntry name value l) := by
  induction l with
  | nil => exact List.pairwise_singleton _ _
  | cons q rest ih =>
    obtain ⟨n, v⟩ := q
    have hrest : InOrder rest := (List.pairwise_cons.1 h).2
    have hhead := (List.pairwise_cons.1 h).1
    rw [FolderSync.putEntry]
    split
    · rename_i hn
      subst hn
      exact List.pairwise_cons.2 ⟨hhead, hrest⟩
    · rename_i hn
      split
      · rename_i hlt
        refine List.pairwise_cons.2 ⟨fun p hp => ?_, h⟩
        rcases List.mem_cons.1 hp with rfl | hp
        · exact hlt
        · exact byteLt_trans hlt (hhead p hp)
      · rename_i hlt
        refine List.pairwise_cons.2 ⟨fun p hp => ?_, ih hrest⟩
        rcases mem_putEntry hp with rfl | hp
        · exact (byteLt_or_byteLt hn).resolve_left hlt
        · exact hhead p hp

theorem valueOf?_putEntry (name other : String) (value : α) (l : List (String × α)) :
    valueOf? other (putEntry name value l) =
      if other = name then some value else valueOf? other l := by
  induction l with
  | nil => simp [putEntry, valueOf?]
  | cons q rest ih =>
    obtain ⟨n, v⟩ := q
    rw [putEntry]
    split
    · rename_i hn
      subst hn
      by_cases h : other = name <;> simp [valueOf?, h]
    · split
      · by_cases h : other = name <;> simp [valueOf?, h]
      · rw [valueOf?, ih, valueOf?]
        by_cases hn : other = n <;> by_cases h : other = name <;> simp_all

/-! ### Maps -/

/-- Finitely many names in order, each with a value. -/
structure NameMap (α : Type) where
  entries : List (String × α) := []
  inOrder : InOrder entries := by exact List.Pairwise.nil

namespace NameMap

variable {α : Type}

@[ext] theorem ext {m n : NameMap α} (h : m.entries = n.entries) : m = n := by
  cases m
  cases n
  simpa using h

instance [DecidableEq α] : DecidableEq (NameMap α) := fun m n =>
  decidable_of_iff (m.entries = n.entries) ⟨ext, fun h => h ▸ rfl⟩

/-- The map without a name. -/
def empty : NameMap α := {}

/-- The map with a value put under a name. -/
def insert (m : NameMap α) (name : String) (value : α) : NameMap α :=
  ⟨putEntry name value m.entries, m.inOrder.putEntry⟩

/-- The value under a name. -/
def get? (m : NameMap α) (name : String) : Option α := valueOf? name m.entries

/-- Does the map hold the name? -/
def contains (m : NameMap α) (name : String) : Bool := (m.get? name).isSome

/-- Number of names. -/
def size (m : NameMap α) : Nat := m.entries.length

/-- The map of a list of pairs; of two values under one name the later stays. -/
def ofList (pairs : List (String × α)) : NameMap α :=
  pairs.foldl (fun m p => m.insert p.1 p.2) empty

/-- The names, in order. -/
def names (m : NameMap α) : List String := m.entries.map Prod.fst

theorem get?_insert (m : NameMap α) (name other : String) (value : α) :
    (m.insert name value).get? other = if other = name then some value else m.get? other :=
  valueOf?_putEntry name other value m.entries

@[simp] theorem get?_empty (name : String) : (empty : NameMap α).get? name = none := rfl

theorem ofList_concat (pairs : List (String × α)) (p : String × α) :
    ofList (pairs ++ [p]) = (ofList pairs).insert p.1 p.2 := by
  simp [ofList, List.foldl_append]

end NameMap

/-! ### Sets -/

/-- Finitely many names in order. -/
abbrev NameSet := NameMap Unit

namespace NameSet

/-- The set with one more name. -/
def add (s : NameSet) (name : String) : NameSet := s.insert name ()

end NameSet

instance : Membership String NameSet := ⟨fun s name => s.contains name = true⟩

instance (name : String) (s : NameSet) : Decidable (name ∈ s) :=
  inferInstanceAs (Decidable (s.contains name = true))

theorem NameSet.mem_add {s : NameSet} {name other : String} :
    other ∈ s.add name ↔ other = name ∨ other ∈ s := by
  show (NameMap.get? (s.add name) other).isSome = true ↔ _ ∨ (NameMap.get? s other).isSome = true
  rw [NameSet.add, NameMap.get?_insert]
  by_cases h : other = name <;> simp [h]

end FolderSync
