import FolderSync.Proofs.Disk.Path
import Mathlib.Data.List.Induction

/-!
# The disk as a tree

On a well-formed disk (`Disk.WellFormed`) every entry stands in a directory under a name that can
stand there, and the working directory is there.  `WellFormed.put` and `WellFormed.erase` say which
changes keep this.

* `Name.Valid`: a name that can stand in a directory and is not too long.
* `mem_list?_iff`: the names that a directory lists are those under which something stands.
-/

namespace FolderSync

/-- A name that can stand in a directory and is not too long. -/
structure Name.Valid (name : Name) : Prop extends name.Proper where
  length_le : name.length ≤ nameLimit

instance (name : Name) : Decidable name.Valid :=
  decidable_of_iff (name.Proper ∧ name.length ≤ nameLimit) ⟨fun h => ⟨h.1, h.2⟩, fun h => ⟨h.1, h.2⟩⟩

namespace Disk

@[simp] theorem find?_root (d : Disk) : d.find? [] = some .directory := by
  rw [find?, if_pos rfl]

/-- Every entry stands in a directory under a valid name, and so does the working directory.  What
cannot be listed is a directory. -/
structure WellFormed (d : Disk) : Prop where
  parent : ∀ {loc name}, d.find? (loc ++ [name]) ≠ none → d.find? loc = some .directory
  valid : ∀ {loc name}, d.find? (loc ++ [name]) ≠ none → name.Valid
  here : d.find? d.here = some .directory
  closed : ∀ p ∈ d.closed, d.find? p.1 = some .directory

theorem find?_ne_none_iff {d : Disk} {loc : Location} (h : loc ≠ []) :
    d.find? loc ≠ none ↔ ∃ p ∈ d.entries, p.1 = loc := by
  rw [find?, if_neg h, ne_eq, List.lookup_eq_none_iff]
  simp only [not_forall, bne_iff_ne, ne_eq, not_not, exists_prop, Prod.exists]
  constructor
  · rintro ⟨k, e, hmem, hk⟩
    exact ⟨k, e, hmem, (by simpa using hk : loc = k).symm⟩
  · rintro ⟨k, e, hmem, rfl⟩
    exact ⟨k, e, hmem, by simp⟩

/-- What was put where nothing stood leaves nothing behind when it is taken away. -/
theorem erase_put {d : Disk} {loc : Location} (h : loc ≠ []) (hfresh : d.find? loc = none) (e : Entry) :
    (d.put loc e).erase loc = d := by
  have hkeys : ∀ p ∈ d.entries, p.1 ≠ loc := fun p hp heq =>
    (find?_ne_none_iff h).2 ⟨p, hp, heq⟩ hfresh
  have hall : (d.entries.filter fun p => p.1 ≠ loc) = d.entries :=
    List.filter_eq_self.2 fun p hp => decide_eq_true (hkeys p hp)
  unfold put erase
  rw [List.filter_cons_of_neg (by simp), hall, hall]

/-- Whether a disk is well-formed can be seen from its entries. -/
theorem wellFormed_iff (d : Disk) :
    d.WellFormed ↔ (∀ p ∈ d.entries, ∀ name ∈ p.1.getLast?,
      d.find? p.1.dropLast = some .directory ∧ name.Valid) ∧ d.find? d.here = some .directory ∧
      ∀ p ∈ d.closed, d.find? p.1 = some .directory := by
  constructor
  · intro h
    refine ⟨fun p hp name hname => ?_, h.here, h.closed⟩
    obtain ⟨front, hfront⟩ := List.getLast?_eq_some_iff.1 hname
    have hfound : d.find? (front ++ [name]) ≠ none :=
      (find?_ne_none_iff (by simp)).2 ⟨p, hp, hfront⟩
    rw [hfront, List.dropLast_concat]
    exact ⟨h.parent hfound, h.valid hfound⟩
  · rintro ⟨h, hhere, hclosed⟩
    have key : ∀ {loc name}, d.find? (loc ++ [name]) ≠ none →
        d.find? loc = some .directory ∧ name.Valid := by
      intro loc name hfound
      obtain ⟨p, hp, hloc⟩ := (find?_ne_none_iff (by simp)).1 hfound
      have := h p hp name (by rw [hloc]; simp)
      rwa [hloc, List.dropLast_concat] at this
    exact ⟨fun hf => (key hf).1, fun hf => (key hf).2, hhere, hclosed⟩

instance (d : Disk) : Decidable d.WellFormed := decidable_of_iff _ (wellFormed_iff d).symm

/-! ### The way to an entry -/

variable {d : Disk} {loc front : Location}

/-- On the way to an entry there are directories. -/
theorem WellFormed.directory_on_way (h : d.WellFormed) (hloc : d.find? loc ≠ none)
    (hfront : front <+: loc) (hne : front ≠ loc) : d.find? front = some .directory := by
  obtain ⟨back, rfl⟩ := hfront
  induction back using List.reverseRecOn with
  | nil => simp at hne
  | append_singleton back name ih =>
    rw [← List.append_assoc] at hloc
    have hdir := h.parent hloc
    by_cases hback : back = []
    · rwa [hback, List.append_nil] at hdir
    · exact ih (by rw [hdir]; simp) (by simpa using Ne.symm hback)

theorem WellFormed.directory_on_way' (h : d.WellFormed) (hloc : d.find? loc = some .directory)
    (hfront : front <+: loc) : d.find? front = some .directory := by
  by_cases he : front = loc
  · exact he ▸ hloc
  · exact h.directory_on_way (by rw [hloc]; simp) hfront he

/-- Where an entry stands, every name on the way is valid. -/
theorem WellFormed.valid_of_mem (h : d.WellFormed) (hloc : d.find? loc ≠ none) {name : Name}
    (hname : name ∈ loc) : name.Valid := by
  obtain ⟨front, back, rfl⟩ := List.append_of_mem hname
  have hsplit : front ++ name :: back = (front ++ [name]) ++ back := by simp
  by_cases hback : back = []
  · subst hback
    exact h.valid hloc
  · have hne : front ++ [name] ≠ front ++ name :: back := by
      rw [hsplit]
      simpa using Ne.symm hback
    have hdir := h.directory_on_way hloc (hsplit ▸ List.prefix_append _ _) hne
    exact h.valid (by rw [hdir]; simp)

/-! ### Changes -/

/-- An entry may be put into a directory under a valid name, but no directory may be covered. -/
theorem WellFormed.put (h : d.WellFormed) {name : Name} {e : Entry}
    (hloc : d.find? loc = some .directory) (hname : name.Valid)
    (hold : d.find? (loc ++ [name]) = some .directory → e = .directory) :
    (d.put (loc ++ [name]) e).WellFormed := by
  have hview : ∀ other, (d.put (loc ++ [name]) e).find? other =
      if other = loc ++ [name] then some e else d.find? other := find?_put (by simp) e
  have hdirectory : ∀ other, d.find? other = some .directory →
      (d.put (loc ++ [name]) e).find? other = some .directory := by
    intro other hother
    rw [hview]
    split
    · rename_i heq
      rw [hold (heq ▸ hother)]
    · exact hother
  refine ⟨?_, ?_, hdirectory _ h.here, fun p hp => hdirectory _ (h.closed p hp)⟩
  · intro other n hfound
    apply hdirectory
    rw [hview] at hfound
    split at hfound
    · rename_i heq
      obtain ⟨rfl, -⟩ := List.append_singleton_inj.1 heq
      exact hloc
    · exact h.parent hfound
  · intro other n hfound
    rw [hview] at hfound
    split at hfound
    · rename_i heq
      obtain ⟨-, rfl⟩ := List.append_singleton_inj.1 heq
      exact hname
    · exact h.valid hfound

/-- What is no directory may be taken away. -/
theorem WellFormed.erase (h : d.WellFormed) (hloc : d.find? loc ≠ some .directory) :
    (d.erase loc).WellFormed := by
  have hroot : loc ≠ [] := by
    rintro rfl
    exact hloc (find?_root d)
  have hview := fun other => find?_erase (d := d) hroot other
  have hdirectory : ∀ other, d.find? other = some .directory →
      (d.erase loc).find? other = some .directory := by
    intro other hother
    rw [hview]
    split
    · rename_i heq
      exact absurd (heq ▸ hother) hloc
    · exact hother
  have hkept : ∀ {other}, (d.erase loc).find? other ≠ none → d.find? other ≠ none := by
    intro other hfound
    rw [hview] at hfound
    split at hfound
    · exact absurd rfl hfound
    · exact hfound
  exact ⟨fun hfound => hdirectory _ (h.parent (hkept hfound)), fun hfound => h.valid (hkept hfound),
    hdirectory _ h.here, fun p hp => hdirectory _ (h.closed p hp)⟩

/-! ### Listings -/

theorem mem_names_iff {name : Name} : name ∈ d.names loc ↔ d.find? (loc ++ [name]) ≠ none := by
  rw [find?_ne_none_iff (by simp), names, List.mem_filterMap]
  constructor
  · rintro ⟨p, hp, hname⟩
    unfold childName? at hname
    split at hname
    · rename_i h
      obtain ⟨front, hfront⟩ := List.getLast?_eq_some_iff.1 hname
      rw [hfront, List.dropLast_concat] at h
      exact ⟨p, hp, h.2 ▸ hfront⟩
    · cases hname
  · rintro ⟨p, hp, hloc⟩
    refine ⟨p, hp, ?_⟩
    rw [childName?, hloc, if_pos ⟨by simp, List.dropLast_concat⟩, List.getLast?_concat]

theorem list?_eq_ok {listed : List (Except Cause Name)} (h : d.list? loc = .ok listed) :
    d.closed.lookup loc = none ∧
      listed = (d.faults loc).map .error ++ (d.names loc).map .ok := by
  unfold list? at h
  split at h
  · cases h
  · rename_i hclosed
    exact ⟨hclosed, (Except.ok.inj h).symm⟩

/-- **A directory lists the names under which something stands.** -/
theorem mem_list?_iff {listed : List (Except Cause Name)} (h : d.list? loc = .ok listed)
    {name : Name} : .ok name ∈ listed ↔ d.find? (loc ++ [name]) ≠ none := by
  obtain ⟨-, rfl⟩ := list?_eq_ok h
  rw [← mem_names_iff]
  simp

/-- A directory cannot be listed if it is closed. -/
theorem exists_list?_eq_error_iff :
    (∃ cause, d.list? loc = .error cause) ↔ d.closed.lookup loc ≠ none := by
  unfold list?
  cases d.closed.lookup loc with
  | none => simp
  | some cause => simp

/-- Where no directory stands, none is closed. -/
theorem WellFormed.lookup_closed (h : d.WellFormed) (hloc : d.find? loc ≠ some .directory) :
    d.closed.lookup loc = none := by
  rw [List.lookup_eq_none_iff]
  intro p hp
  rw [bne_iff_ne]
  rintro rfl
  exact hloc (h.closed p hp)

end Disk

end FolderSync
