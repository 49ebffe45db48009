/-!
# Fields

`fieldsBy` cuts a list at its separators, and `joinFields` puts it together again
(`joinFields_fieldsBy`).  A separator between two lists cuts between their fields
(`fieldsBy_append_cons`), so fields without separators are found again
(`fieldsBy_joinFields`).
-/

namespace FolderSync

/-- The runs of elements between separators; there is one more of them than there are
separators. -/
def fieldsBy (isSeparator : α → Bool) : List α → List (List α)
  | [] => [[]]
  | x :: rest =>
    if isSeparator x then [] :: fieldsBy isSeparator rest
    else match fieldsBy isSeparator rest with
      | [] => [[x]]
      | f :: more => (x :: f) :: more

/-- Fields with a separator between each two. -/
def joinFields (separator : α) : List (List α) → List α
  | [] => []
  | [f] => f
  | f :: more => f ++ separator :: joinFields separator more

theorem fieldsBy_ne_nil (p : α → Bool) (l : List α) : fieldsBy p l ≠ [] := by
  cases l with
  | nil => simp [fieldsBy]
  | cons x rest =>
    rw [fieldsBy]
    split
    · simp
    · split <;> simp

/-- A list without separators is one field. -/
theorem fieldsBy_of_forall {p : α → Bool} {l : List α} (h : ∀ x ∈ l, p x = false) :
    fieldsBy p l = [l] := by
  induction l with
  | nil => rfl
  | cons x rest ih =>
    rw [fieldsBy, h x List.mem_cons_self, ih fun y hy => h y (List.mem_cons_of_mem _ hy)]
    rfl

theorem fieldsBy_append_cons {p : α → Bool} {x : α} (hx : p x = true) (l m : List α) :
    fieldsBy p (l ++ x :: m) = fieldsBy p l ++ fieldsBy p m := by
  induction l with
  | nil => simp [fieldsBy, hx]
  | cons y rest ih =>
    rw [List.cons_append, fieldsBy, fieldsBy, ih]
    split
    · rfl
    · cases h : fieldsBy p rest with
      | nil => exact absurd h (fieldsBy_ne_nil p rest)
      | cons f more => rfl

/-- The elements of a field are elements of the list, and no separators. -/
theorem mem_of_mem_fieldsBy {p : α → Bool} {l f : List α} (hf : f ∈ fieldsBy p l) {x : α}
    (hx : x ∈ f) : x ∈ l ∧ p x = false := by
  induction l generalizing f with
  | nil =>
    obtain rfl : f = [] := by simpa [fieldsBy] using hf
    cases hx
  | cons y rest ih =>
    rw [fieldsBy] at hf
    split at hf
    · rcases List.mem_cons.1 hf with rfl | hf
      · cases hx
      · exact ⟨List.mem_cons_of_mem _ (ih hf hx).1, (ih hf hx).2⟩
    · rename_i hy
      cases h : fieldsBy p rest with
      | nil => exact absurd h (fieldsBy_ne_nil p rest)
      | cons g more =>
        rw [h] at hf
        have hin : ∀ e ∈ g :: more, x ∈ e → x ∈ y :: rest ∧ p x = false := fun e he hxe => by
          have := ih (h ▸ he) hxe
          exact ⟨List.mem_cons_of_mem _ this.1, this.2⟩
        rcases List.mem_cons.1 hf with rfl | hf
        · rcases List.mem_cons.1 hx with rfl | hx
          · exact ⟨List.mem_cons_self, by simpa using hy⟩
          · exact hin g List.mem_cons_self hx
        · exact hin f (List.mem_cons_of_mem _ hf) hx

theorem fieldsBy_joinFields [DecidableEq α] {separator : α} {fields : List (List α)}
    (hne : fields ≠ []) (h : ∀ f ∈ fields, separator ∉ f) :
    fieldsBy (· = separator) (joinFields separator fields) = fields := by
  induction fields with
  | nil => exact absurd rfl hne
  | cons f more ih =>
    have hf : ∀ x ∈ f, decide (x = separator) = false := fun x hx =>
      decide_eq_false fun hxs => h f List.mem_cons_self (hxs ▸ hx)
    cases more with
    | nil => exact fieldsBy_of_forall hf
    | cons g more =>
      rw [joinFields, fieldsBy_append_cons (by simp), fieldsBy_of_forall hf,
        ih (by simp) fun e he => h e (List.mem_cons_of_mem _ he)]
      · rfl
      · simp

theorem eq_or_mem_of_mem_joinFields {separator x : α} {fields : List (List α)}
    (h : x ∈ joinFields separator fields) : x = separator ∨ ∃ f ∈ fields, x ∈ f := by
  induction fields with
  | nil => cases h
  | cons f more ih =>
    cases more with
    | nil => exact .inr ⟨f, List.mem_cons_self, h⟩
    | cons g more =>
      rw [joinFields, List.mem_append, List.mem_cons] at h
      · rcases h with hf | hsep | hmore
        · exact .inr ⟨f, List.mem_cons_self, hf⟩
        · exact .inl hsep
        · obtain hsep | ⟨e, he, hx⟩ := ih hmore
          · exact .inl hsep
          · exact .inr ⟨e, List.mem_cons_of_mem _ he, hx⟩
      · simp

theorem joinFields_fieldsBy [DecidableEq α] (separator : α) (l : List α) :
    joinFields separator (fieldsBy (· = separator) l) = l := by
  induction l with
  | nil => rfl
  | cons x rest ih =>
    rw [fieldsBy]
    cases h : fieldsBy (fun y => decide (y = separator)) rest with
    | nil => exact absurd h (fieldsBy_ne_nil _ _)
    | cons f more =>
      rw [h] at ih
      by_cases hx : x = separator
      · simp only [hx, decide_true, if_true, joinFields, ih, List.nil_append]
      · simp only [hx, decide_false, Bool.false_eq_true, if_false]
        cases more with
        | nil => simp_all [joinFields]
        | cons g more => simp_all [joinFields]

end FolderSync
