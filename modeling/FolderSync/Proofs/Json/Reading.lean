import FolderSync.Proofs.Json.Value

/-!
# What is read

What is read is regular, whatever the text: its integers are of 64 bits, and its objects have their
fields in order (`regular_of_read`).  The text is taken apart as the reader does: numbers first, then
lists and objects of values that are regular already.
-/

namespace FolderSync.Json

/-- Whatever value is read has the property. -/
def Gives (P : α → Prop) (reading : Reading α) : Prop :=
  ∀ value rest, reading = .ok (value, rest) → P value

theorem gives_error (P : α → Prop) (fault : Fault) : Gives P (.error fault) := by
  intro value rest h
  cases h

theorem gives_ok {P : α → Prop} {value : α} (h : P value) (rest : Bytes) :
    Gives P (.ok (value, rest)) := by
  intro value' rest' heq
  cases heq
  exact h

/-! ### Numbers -/

/-- The digits that are taken stay within the limit. -/
theorem fst_absorb_le {limit start : Nat} (h : start ≤ limit) (text : Bytes) :
    (absorb limit start text).1 ≤ limit := by
  induction text generalizing start with
  | nil => exact h
  | cons d more ih =>
    rw [absorb]
    split
    · exact h
    · rename_i hle
      exact ih (Nat.not_lt.1 hle)

section Number

variable {depth : Nat}

theorem gives_number (negative : Bool) (digits : Nat) (exponent : Int) (rest : Bytes) :
    Gives (Regular Set.univ depth) (number negative digits exponent rest) := by
  unfold number
  split
  · exact gives_error _ _
  · exact gives_ok (.float trivial) _

theorem gives_exponentPart (negative : Bool) (digits : Nat) (exponent : Int) (text : Bytes) :
    Gives (Regular Set.univ depth) (exponentPart negative digits exponent text) := by
  unfold exponentPart
  split
  split
  · exact gives_error _ _
  · split
    · exact gives_error _ _
    · dsimp only
      split
      · split
        · exact gives_error _ _
        · exact gives_ok (.float trivial) _
      · exact gives_number _ _ _ _

theorem gives_fractionPart (negative : Bool) (digits : Nat) (exponent : Int) (text : Bytes) :
    Gives (Regular Set.univ depth) (fractionPart negative digits exponent text) := by
  unfold fractionPart
  dsimp only
  split
  · exact gives_error _ _
  · split
    · split
      · exact gives_exponentPart _ _ _ _
      · exact gives_number _ _ _ _
    · exact gives_number _ _ _ _

theorem gives_whole (negative : Bool) {digits : Nat} (h : digits ≤ maxNatural) (excess rest : Bytes) :
    Gives (Regular Set.univ depth) (whole negative digits excess rest) := by
  unfold whole
  split_ifs with hexcess hnegative hrange
  · exact gives_number _ _ _ _
  · exact gives_ok (.float trivial) _
  · have hlow : digits ≤ 2 ^ 63 := Nat.not_lt.1 fun hlt => hrange (.inr hlt)
    refine gives_ok (.integer ⟨?_, ?_⟩) _ <;> unfold maxNatural at * <;> omega
  · refine gives_ok (.integer ⟨?_, ?_⟩) _
    · omega
    · exact_mod_cast h

theorem gives_unsigned (negative : Bool) (text : Bytes) :
    Gives (Regular Set.univ depth) (unsigned negative text) := by
  unfold unsigned
  cases text with
  | nil => exact gives_error _ _
  | cons b rest =>
    dsimp only
    split_ifs
    · exact gives_error _ _
    · exact gives_error _ _
    · have hle := fst_absorb_le (Nat.zero_le maxNatural) ((b :: rest).takeWhile isDigit)
      split
      · exact gives_fractionPart _ _ _ _
      · exact gives_exponentPart _ _ _ _
      · exact gives_exponentPart _ _ _ _
      · exact gives_whole _ hle _ _

end Number

/-! ### Lists and objects -/

section Parts

variable {item : Bytes → Reading Json} {P : Json → Prop}

theorem gives_moreItems (hitem : ∀ text, Gives P (item text)) {done : List Json}
    (hdone : ∀ value ∈ done, P value) (steps : Nat) (text : Bytes) :
    Gives (fun v => ∃ items, v = .array items ∧ ∀ value ∈ items, P value)
      (moreItems item done steps text) := by
  induction steps generalizing done text with
  | zero => exact gives_error _ _
  | succ steps ih =>
    unfold moreItems
    split
    · exact gives_error _ _
    · exact gives_ok ⟨_, rfl, fun value h => hdone value (List.mem_reverse.1 h)⟩ _
    · split
      · exact gives_error _ _
      · exact gives_error _ _
      · split
        · rename_i value rest hread
          refine ih (fun other h => ?_) rest
          rcases List.mem_cons.1 h with rfl | h
          · exact hitem _ _ _ hread
          · exact hdone other h
        · exact gives_error _ _
    · exact gives_error _ _

theorem gives_items (hitem : ∀ text, Gives P (item text)) (text : Bytes) :
    Gives (fun v => ∃ items, v = .array items ∧ ∀ value ∈ items, P value) (items item text) := by
  unfold items
  split
  · exact gives_error _ _
  · exact gives_ok ⟨[], rfl, by simp⟩ _
  · split
    · rename_i value rest hread
      have hfirst : ∀ other ∈ [value], P other := by
        intro other h
        rw [List.mem_singleton.1 h]
        exact hitem _ _ _ hread
      exact gives_moreItems hitem hfirst _ _
    · exact gives_error _ _

theorem gives_field (hitem : ∀ text, Gives P (item text)) (text : Bytes) :
    Gives (fun p => P p.2) (field item text) := by
  unfold field
  split
  · exact gives_error _ _
  · split
    · exact gives_error _ _
    · split
      · rename_i hread
        exact fun p more h => by
          cases h
          exact hitem _ _ _ hread
      · exact gives_error _ _
    · exact gives_error _ _

/-- Fields that are put together stand in order, and each is one of them. -/
theorem objectOf_eq (fields : List (String × Json)) :
    ∃ inside, objectOf fields = .object inside ∧ InOrder inside ∧ ∀ p ∈ inside, p ∈ fields := by
  refine ⟨_, rfl, ?_⟩
  induction fields using List.reverseRecOn with
  | nil => exact ⟨List.Pairwise.nil, by simp⟩
  | append_singleton front last ih =>
    obtain ⟨horder, hmem⟩ := ih
    rw [List.foldl_append, List.foldl_cons, List.foldl_nil]
    refine ⟨horder.putEntry, fun p hp => List.mem_append.2 ?_⟩
    rcases mem_putEntry hp with rfl | hp
    · exact .inr List.mem_cons_self
    · exact .inl (hmem p hp)

/-- An object of regular values is regular. -/
theorem regular_objectOf {floats : Set Binary64} {depth : Nat} {fields : List (String × Json)}
    (h : ∀ p ∈ fields, Regular floats depth p.2) : Regular floats (depth + 1) (objectOf fields) := by
  obtain ⟨inside, heq, horder, hmem⟩ := objectOf_eq fields
  rw [heq]
  exact .object horder fun p hp => h p (hmem p hp)

theorem gives_moreFields (hitem : ∀ text, Gives P (item text)) {done : List (String × Json)}
    (hdone : ∀ p ∈ done, P p.2) (steps : Nat) (text : Bytes) :
    Gives (fun v => ∃ fields, v = .object fields ∧ InOrder fields ∧ ∀ p ∈ fields, P p.2)
      (moreFields item done steps text) := by
  induction steps generalizing done text with
  | zero => exact gives_error _ _
  | succ steps ih =>
    unfold moreFields
    split
    · exact gives_error _ _
    · obtain ⟨inside, heq, horder, hmem⟩ := objectOf_eq done.reverse
      exact gives_ok ⟨inside, heq, horder, fun p hp => hdone p (List.mem_reverse.1 (hmem p hp))⟩ _
    · split
      · exact gives_error _ _
      · split
        · rename_i pair rest hread
          refine ih (fun other h => ?_) rest
          rcases List.mem_cons.1 h with rfl | h
          · exact gives_field hitem _ _ _ hread
          · exact hdone other h
        · exact gives_error _ _
      · exact gives_error _ _
      · exact gives_error _ _
    · exact gives_error _ _

theorem gives_fieldsOf (hitem : ∀ text, Gives P (item text)) (text : Bytes) :
    Gives (fun v => ∃ fields, v = .object fields ∧ InOrder fields ∧ ∀ p ∈ fields, P p.2)
      (fieldsOf item text) := by
  unfold fieldsOf
  split
  · exact gives_error _ _
  · exact gives_ok ⟨[], rfl, List.Pairwise.nil, by simp⟩ _
  · split
    · rename_i pair rest hread
      have hfirst : ∀ p ∈ [pair], P p.2 := by
        intro p h
        rw [List.mem_singleton.1 h]
        exact gives_field hitem _ _ _ hread
      exact gives_moreFields hitem hfirst _ _
    · exact gives_error _ _
  · exact gives_error _ _

end Parts

/-! ### Values -/

theorem gives_word {P : α → Prop} {value : α} (h : P value) (letters text : Bytes) :
    Gives P (word value letters text) := by
  induction letters generalizing text with
  | nil => exact gives_ok h _
  | cons w ws ih =>
    cases text with
    | nil => exact gives_error _ _
    | cons b rest =>
      rw [word]
      split_ifs
      · exact ih rest
      · exact gives_error _ _

theorem gives_readValue (depth : Nat) (text : Bytes) :
    Gives (Regular Set.univ depth) (readValue depth text) := by
  induction depth generalizing text with
  | zero =>
    unfold readValue
    split
    · exact gives_error _ _
    · exact gives_word .null _ _
    · exact gives_word (.boolean true) _ _
    · exact gives_word (.boolean false) _ _
    · exact gives_unsigned _ _
    · split
      · exact gives_ok (.string _) _
      · exact gives_error _ _
    · exact gives_error _ _
    · exact gives_error _ _
    · split_ifs
      · exact gives_unsigned _ _
      · exact gives_error _ _
  | succ depth ih =>
    unfold readValue
    split
    · exact gives_error _ _
    · exact gives_word .null _ _
    · exact gives_word (.boolean true) _ _
    · exact gives_word (.boolean false) _ _
    · exact gives_unsigned _ _
    · split
      · exact gives_ok (.string _) _
      · exact gives_error _ _
    · intro v rest h
      obtain ⟨items, rfl, hitems⟩ := gives_items ih _ v rest h
      exact .array hitems
    · intro v rest h
      obtain ⟨fields, rfl, horder, hfields⟩ := gives_fieldsOf ih _ v rest h
      exact .object horder hfields
    · split_ifs
      · exact gives_unsigned _ _
      · exact gives_error _ _

/-- **Whatever is read is regular.** -/
theorem regular_of_read {text : Bytes} {value : Json} (h : read text = .ok value) :
    Regular Set.univ depthLimit value := by
  unfold read at h
  split at h
  · cases h
  · rename_i v rest hread
    split at h
    · cases h
      exact gives_readValue depthLimit text _ _ hread
    · cases h

end FolderSync.Json
