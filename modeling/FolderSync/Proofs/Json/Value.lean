import FolderSync.Proofs.Json.Number
import FolderSync.Proofs.Json.Text
import FolderSync.Proofs.NameMap
import Mathlib.Data.Set.Defs

/-!
# Written values are read back

`Regular` are the values in the form in which they are read.  Written in either layout, such a value
without binary numbers is read back as it was (`read_chars`).

* `IsItem`, `IsField`: bytes that are read as one value or field, whatever closes them.
* `isItem_array`, `isItem_object`: what is put together of such parts is read back as well.
* `isItem_fields`: fields that are out of order are read as the object that they make.
-/

namespace FolderSync.Json

/-! ### The first byte -/

theorem isBlank_of_isDigit {b : UInt8} (h : isDigit b = true) : isBlank b = false := by
  simp only [isBlank, Bool.or_eq_false_iff, decide_eq_false_iff_not]
  refine ⟨⟨⟨?_, ?_⟩, ?_⟩, ?_⟩ <;> rintro rfl <;> exact absurd h (by decide)

theorem skipBlanks_cons {b : UInt8} (h : isBlank b = false) (text : Bytes) :
    skipBlanks (b :: text) = b :: text := by
  rw [skipBlanks, List.dropWhile_cons, h]
  rfl

theorem skipBlanks_append {blanks : Bytes} (h : ∀ b ∈ blanks, isBlank b = true) (text : Bytes) :
    skipBlanks (blanks ++ text) = skipBlanks text :=
  List.dropWhile_append_of_pos h

/-- Blanks in front of a value do not count. -/
theorem readValue_append {blanks : Bytes} (h : ∀ b ∈ blanks, isBlank b = true) (depth : Nat)
    (text : Bytes) : readValue depth (blanks ++ text) = readValue depth text := by
  unfold readValue
  rw [skipBlanks_append h]

section Dispatch

variable (depth : Nat) (rest : Bytes)

theorem readValue_minus : readValue depth (45 :: rest) = unsigned true rest := by
  cases depth <;> rfl

theorem readValue_quote : readValue depth (34 :: rest) =
    match readString rest with
    | .ok (s, rest) => .ok (.string s, rest)
    | .error fault => .error fault := by
  cases depth <;> rfl

theorem readValue_bracket : readValue (depth + 1) (91 :: rest) = items (readValue depth) rest := rfl

theorem readValue_brace : readValue (depth + 1) (123 :: rest) = fieldsOf (readValue depth) rest := rfl

theorem word_append {α : Type} (value : α) (letters rest : Bytes) :
    word value letters (letters ++ rest) = .ok (value, rest) := by
  induction letters with
  | nil => rfl
  | cons b more ih => rw [List.cons_append, word, if_pos rfl, ih]

theorem readValue_null : readValue depth (bytesOf "null".toList ++ rest) = .ok (.null, rest) := by
  have hword (rest : Bytes) : readValue depth (110 :: rest) = word .null (utf8 "ull") rest := by
    cases depth <;> rfl
  rw [show bytesOf "null".toList = 110 :: utf8 "ull" by decide, List.cons_append, hword]
  exact word_append _ _ _

theorem readValue_true :
    readValue depth (bytesOf "true".toList ++ rest) = .ok (.boolean true, rest) := by
  have hword (rest : Bytes) : readValue depth (116 :: rest) = word (.boolean true) (utf8 "rue") rest := by
    cases depth <;> rfl
  rw [show bytesOf "true".toList = 116 :: utf8 "rue" by decide, List.cons_append, hword]
  exact word_append _ _ _

theorem readValue_false :
    readValue depth (bytesOf "false".toList ++ rest) = .ok (.boolean false, rest) := by
  have hword (rest : Bytes) : readValue depth (102 :: rest) = word (.boolean false) (utf8 "alse") rest := by
    cases depth <;> rfl
  rw [show bytesOf "false".toList = 102 :: utf8 "alse" by decide, List.cons_append, hword]
  exact word_append _ _ _

end Dispatch

theorem readValue_digit {b : UInt8} (h : isDigit b = true) (depth : Nat) (rest : Bytes) :
    readValue depth (b :: rest) = unsigned false (b :: rest) := by
  unfold readValue
  rw [skipBlanks_cons (isBlank_of_isDigit h)]
  split
  · rename_i heq
    cases heq
  all_goals
    rename_i heq
    obtain ⟨rfl, rfl⟩ := List.cons.inj heq
  iterate 7 · exact absurd h (by decide)
  · rw [if_pos h]

theorem whole_negative {n : Nat} (hpos : n ≠ 0) (hle : n ≤ 2 ^ 63) (rest : Bytes) :
    whole true n [] rest = .ok (.integer (-n), rest) := by
  have hrange : ¬ (n = 0 ∨ Nat.pow 2 63 < n) := by
    rintro (h | h)
    · exact hpos h
    · exact absurd hle (Nat.not_le.2 h)
  rw [whole, if_neg (by simp), if_pos rfl, if_neg hrange]

/-! ### Parts between brackets -/

/-- What stands before a part, or behind the last. -/
def Layout.gap (layout : Layout) (depth : Nat) : Bytes := bytesOf (layout.newline depth)

theorem isBlank_of_mem_gap {layout : Layout} {depth : Nat} :
    ∀ b ∈ layout.gap depth, isBlank b = true := by
  cases layout with
  | compact => simp [Layout.gap, Layout.newline]
  | pretty =>
    intro b hb
    rw [Layout.gap, Layout.newline, bytesOf_cons, List.mem_append] at hb
    rcases hb with hb | hb
    · rw [show String.utf8EncodeChar '\n' = [10] by decide, List.mem_singleton] at hb
      rw [hb]
      rfl
    · rw [bytesOf, List.mem_flatMap] at hb
      obtain ⟨c, hc, hb⟩ := hb
      rw [List.eq_of_mem_replicate hc, show String.utf8EncodeChar ' ' = [32] by decide,
        List.mem_singleton] at hb
      rw [hb]
      rfl

/-- The parts behind the first, each behind a comma, and what closes them. -/
def Layout.following (layout : Layout) (depth : Nat) (parts : List Bytes) (close : Bytes) : Bytes :=
  parts.flatMap (fun part => 44 :: layout.gap (depth + 1) ++ part) ++ layout.gap depth ++ close

theorem bytesOf_enclose (layout : Layout) (depth : Nat) {opening closing : Char} {o c : UInt8}
    (ho : String.utf8EncodeChar opening = [o]) (hc : String.utf8EncodeChar closing = [c])
    (first : List Char) (more : List (List Char)) (rest : Bytes) :
    bytesOf (layout.enclose depth opening closing (first :: more)) ++ rest =
      o :: layout.gap (depth + 1) ++ bytesOf first ++
        layout.following depth (more.map bytesOf) (c :: rest) := by
  have hcomma : String.utf8EncodeChar ',' = [44] := by decide
  have hmore : bytesOf (more.flatMap fun part => ',' :: layout.newline (depth + 1) ++ part) =
      (more.map bytesOf).flatMap fun part => 44 :: layout.gap (depth + 1) ++ part := by
    induction more with
    | nil => rfl
    | cons part more ih =>
      rw [List.flatMap_cons, bytesOf_append, ih]
      simp [Layout.gap, hcomma]
  rw [Layout.enclose, bytesOf_append, bytesOf_append, bytesOf_append, bytesOf_append, hmore,
    bytesOf_cons, bytesOf_cons, ho, hc, Layout.following]
  simp [Layout.gap]

theorem closes_following (layout : Layout) (depth : Nat) (parts : List Bytes) {c : UInt8}
    (hc : c = 93 ∨ c = 125) (rest : Bytes) :
    Closes (layout.following depth parts (c :: rest)) := by
  intro b hb
  cases parts with
  | cons part more =>
    obtain rfl : 44 = b := by simpa [Layout.following] using hb
    exact .inr (.inl rfl)
  | nil =>
    rw [Layout.following, List.flatMap_nil, List.nil_append] at hb
    cases hgap : layout.gap depth with
    | nil =>
      obtain rfl : c = b := by simpa [hgap] using hb
      exact .inr (.inr hc)
    | cons g more =>
      obtain rfl : g = b := by simpa [hgap] using hb
      exact .inl (isBlank_of_mem_gap g (hgap ▸ List.mem_cons_self))

theorem length_le_following (layout : Layout) (depth : Nat) (parts : List Bytes) (close : Bytes) :
    parts.length + close.length ≤ (layout.following depth parts close).length := by
  have hparts : parts.length ≤
      (parts.flatMap fun part => 44 :: layout.gap (depth + 1) ++ part).length := by
    induction parts with
    | nil => simp
    | cons part more ih =>
      rw [List.flatMap_cons, List.length_append, List.length_cons, List.cons_append,
        List.length_cons]
      omega
  rw [Layout.following, List.length_append, List.length_append]
  omega

/-! ### Lists -/

/-- Whatever closes the bytes, they are read as an item and the rest is left. -/
structure IsItem (item : Bytes → Reading Json) (bytes : Bytes) (value : Json) : Prop where
  starts : ∃ b more, bytes = b :: more ∧ isBlank b = false ∧ b ≠ 93
  reads : ∀ rest, Closes rest → item (bytes ++ rest) = .ok (value, rest)

theorem moreItems_comma {text rest more : Bytes} {b : UInt8} (h : skipBlanks text = 44 :: rest)
    (hrest : skipBlanks rest = b :: more) (hb : b ≠ 93) (item : Bytes → Reading Json)
    (done : List Json) (steps : Nat) :
    moreItems item done (steps + 1) text =
      match item (b :: more) with
      | .ok (value, rest) => moreItems item (value :: done) steps rest
      | .error fault => .error fault := by
  simp only [moreItems, h, hrest]
  split
  · rename_i heq
    cases heq
  · rename_i heq
    exact absurd (List.cons.inj heq).1 hb
  · rfl

theorem moreItems_following {item : Bytes → Reading Json} {parts : List Bytes} {values : List Json}
    (h : List.Forall₂ (IsItem item) parts values) (layout : Layout) (depth : Nat)
    (done : List Json) {steps : Nat} (hsteps : parts.length < steps) (rest : Bytes) :
    moreItems item done steps (layout.following depth parts (93 :: rest)) =
      .ok (.array (done.reverse ++ values), rest) := by
  obtain ⟨steps, rfl⟩ : ∃ k, steps = k + 1 := ⟨steps - 1, by omega⟩
  induction h generalizing done steps with
  | nil =>
    rw [moreItems, Layout.following, List.flatMap_nil, List.nil_append,
      skipBlanks_append isBlank_of_mem_gap, skipBlanks_cons (by decide)]
    simp
  | @cons part value parts values hpart _ ih =>
    obtain ⟨steps, rfl⟩ : ∃ k, steps = k + 1 := ⟨steps - 1, by simp at hsteps; omega⟩
    obtain ⟨b, more, rfl, hblank, hb⟩ := hpart.starts
    have hfollowing : layout.following depth ((b :: more) :: parts) (93 :: rest) =
        44 :: (layout.gap (depth + 1) ++
          (b :: (more ++ layout.following depth parts (93 :: rest)))) := by
      simp [Layout.following]
    have hread := hpart.reads _ (closes_following layout depth parts (.inl rfl) rest)
    rw [List.cons_append] at hread
    rw [hfollowing, moreItems_comma (skipBlanks_cons (by decide) _)
      ((skipBlanks_append isBlank_of_mem_gap _).trans (skipBlanks_cons hblank _)) hb, hread]
    dsimp only
    rw [ih _ steps (by simp at hsteps; omega)]
    simp

theorem items_following {item : Bytes → Reading Json} {first : Bytes} {parts : List Bytes}
    {value : Json} {values : List Json} (hfirst : IsItem item first value)
    (h : List.Forall₂ (IsItem item) parts values) (layout : Layout) (depth : Nat) (rest : Bytes) :
    items item (layout.gap (depth + 1) ++ first ++ layout.following depth parts (93 :: rest)) =
      .ok (.array (value :: values), rest) := by
  obtain ⟨b, more, rfl, hblank, hb⟩ := hfirst.starts
  have hread := hfirst.reads _ (closes_following layout depth parts (.inl rfl) rest)
  have hlength := length_le_following layout depth parts (93 :: rest)
  rw [List.append_assoc, items, skipBlanks_append isBlank_of_mem_gap, List.cons_append,
    skipBlanks_cons hblank]
  rw [List.cons_append] at hread
  split
  · rename_i heq
    cases heq
  · rename_i heq
    exact absurd (List.cons.inj heq).1 hb
  · rw [hread]
    dsimp only
    rw [moreItems_following h layout depth [value] (by simp at hlength; omega)]
    rfl

/-! ### Objects -/

/-- Whatever closes the bytes, they are read as a field and the rest is left. -/
structure IsField (item : Bytes → Reading Json) (bytes : Bytes) (pair : String × Json) : Prop where
  reads : ∃ body, bytes = 34 :: body ∧
    ∀ rest, Closes rest → field item (body ++ rest) = .ok (pair, rest)

theorem moreFields_comma {text rest body : Bytes} (h : skipBlanks text = 44 :: rest)
    (hrest : skipBlanks rest = 34 :: body) (item : Bytes → Reading Json)
    (done : List (String × Json)) (steps : Nat) :
    moreFields item done (steps + 1) text =
      match field item body with
      | .ok (pair, rest) => moreFields item (pair :: done) steps rest
      | .error fault => .error fault := by
  rcases hread : field item body with fault | ⟨pair, after⟩ <;>
    simp only [moreFields, h, hrest, hread]

theorem moreFields_following {item : Bytes → Reading Json} {parts : List Bytes}
    {pairs : List (String × Json)} (h : List.Forall₂ (IsField item) parts pairs) (layout : Layout)
    (depth : Nat) (done : List (String × Json)) {steps : Nat} (hsteps : parts.length < steps)
    (rest : Bytes) :
    moreFields item done steps (layout.following depth parts (125 :: rest)) =
      .ok (.objectOf (done.reverse ++ pairs), rest) := by
  obtain ⟨steps, rfl⟩ : ∃ k, steps = k + 1 := ⟨steps - 1, by omega⟩
  induction h generalizing done steps with
  | nil =>
    rw [moreFields, Layout.following, List.flatMap_nil, List.nil_append,
      skipBlanks_append isBlank_of_mem_gap, skipBlanks_cons (by decide)]
    simp
  | @cons part pair parts pairs hpart _ ih =>
    obtain ⟨steps, rfl⟩ : ∃ k, steps = k + 1 := ⟨steps - 1, by simp at hsteps; omega⟩
    obtain ⟨body, rfl, hread⟩ := hpart.reads
    have hfollowing : layout.following depth ((34 :: body) :: parts) (125 :: rest) =
        44 :: (layout.gap (depth + 1) ++
          (34 :: (body ++ layout.following depth parts (125 :: rest)))) := by
      simp [Layout.following]
    rw [hfollowing, moreFields_comma (skipBlanks_cons (by decide) _)
      ((skipBlanks_append isBlank_of_mem_gap _).trans (skipBlanks_cons (by decide) _)),
      hread _ (closes_following layout depth parts (.inr rfl) rest)]
    dsimp only
    rw [ih _ steps (by simp at hsteps; omega)]
    simp

theorem fieldsOf_following {item : Bytes → Reading Json} {first : Bytes} {parts : List Bytes}
    {pair : String × Json} {pairs : List (String × Json)} (hfirst : IsField item first pair)
    (h : List.Forall₂ (IsField item) parts pairs) (layout : Layout) (depth : Nat) (rest : Bytes) :
    fieldsOf item (layout.gap (depth + 1) ++ first ++ layout.following depth parts (125 :: rest)) =
      .ok (.objectOf (pair :: pairs), rest) := by
  obtain ⟨body, rfl, hread⟩ := hfirst.reads
  have hlength := length_le_following layout depth parts (125 :: rest)
  have hblanks : skipBlanks (layout.gap (depth + 1) ++
      (34 :: body ++ layout.following depth parts (125 :: rest))) =
        34 :: (body ++ layout.following depth parts (125 :: rest)) :=
    (skipBlanks_append isBlank_of_mem_gap _).trans (skipBlanks_cons (by decide) _)
  simp only [List.append_assoc, fieldsOf, hblanks,
    hread _ (closes_following layout depth parts (.inr rfl) rest)]
  rw [moreFields_following h layout depth [pair] (by simp at hlength; omega)]
  rfl

/-! ### Values -/

/-- Values whose integers 64 bits hold, whose other numbers are among the given ones, and whose
objects have their fields in order; lists and objects lie in one another to the given depth. -/
inductive Regular (floats : Set Binary64) : Nat → Json → Prop
  | null {depth : Nat} : Regular floats depth .null
  | boolean {depth : Nat} (value : Bool) : Regular floats depth (.boolean value)
  | integer {depth : Nat} {value : Int} (fits : Fits value) : Regular floats depth (.integer value)
  | float {depth : Nat} {value : Binary64} (mem : value ∈ floats) : Regular floats depth (.float value)
  | string {depth : Nat} (value : String) : Regular floats depth (.string value)
  | array {depth : Nat} {items : List Json} (regular : ∀ item ∈ items, Regular floats depth item) :
      Regular floats (depth + 1) (.array items)
  | object {depth : Nat} {fields : List (String × Json)} (inOrder : InOrder fields)
      (regular : ∀ p ∈ fields, Regular floats depth p.2) : Regular floats (depth + 1) (.object fields)

theorem itemChars_eq (layout : Layout) (depth : Nat) (items : List Json) :
    itemChars layout depth items = items.map (chars layout depth) := by
  induction items with
  | nil => rfl
  | cons item more ih => rw [itemChars, ih, List.map_cons]

theorem fieldChars_eq (layout : Layout) (depth : Nat) (fields : List (String × Json)) :
    fieldChars layout depth fields =
      fields.map fun p => stringChars p.1 ++ layout.colon ++ chars layout depth p.2 := by
  induction fields with
  | nil => rfl
  | cons p more ih =>
    obtain ⟨name, value⟩ := p
    rw [fieldChars, ih, List.map_cons]

/-- Fields in order are put into an object as they are. -/
theorem objectOf_of_inOrder {fields : List (String × Json)} (h : InOrder fields) :
    objectOf fields = .object fields := by
  have hfold : fields.foldl (fun done p => putEntry p.1 p.2 done) [] = fields := by
    induction fields using List.reverseRecOn with
    | nil => rfl
    | append_singleton front last ih =>
      obtain ⟨hfront, -, hlast⟩ := List.pairwise_append.1 h
      rw [List.foldl_append, ih hfront, List.foldl_cons, List.foldl_nil]
      exact putEntry_of_forall_lt fun p hp => hlast p hp last List.mem_cons_self
  rw [objectOf, hfold]

/-- **An integer of 64 bits is read as it is.** -/
theorem isItem_integer {n : Int} (hn : Fits n) (depth : Nat) :
    IsItem (readValue depth) (bytesOf (toString n).toList) (.integer n) := by
  obtain ⟨hlow, hhigh⟩ := hn
  rw [Int.toString_eq_repr, Int.repr_eq_if]
  split
  · rename_i hnonneg
    obtain ⟨k, rfl⟩ := Int.eq_ofNat_of_zero_le hnonneg
    have hk : k ≤ maxNatural := by exact_mod_cast hhigh
    rw [Int.toNat_natCast, Nat.repr_eq_ofList_toDigits, String.toList_ofList]
    cases hform : Nat.toDigits 10 k with
    | nil => exact absurd hform Nat.toDigits_ne_nil
    | cons c cs =>
      have hc : c.isDigit = true :=
        Nat.isDigit_of_mem_toDigits (by decide) (by decide) (hform ▸ List.mem_cons_self)
      obtain ⟨hbytes, hdigit, -⟩ := bytesOf_digits_cons hc cs
      refine ⟨⟨_, _, hbytes, isBlank_of_isDigit hdigit, ?_⟩, fun rest hrest => ?_⟩
      · intro hclose
        rw [hclose] at hdigit
        cases hdigit
      · have hread := unsigned_toDigits hk false hrest
        rw [hform, hbytes] at hread
        rw [hbytes, List.cons_append, readValue_digit hdigit, ← List.cons_append, hread]
        rfl
  · rename_i hneg
    obtain ⟨k, hk⟩ := Int.eq_ofNat_of_zero_le (show 0 ≤ -n by omega)
    have hpos : k ≠ 0 := by omega
    have hle : k ≤ 2 ^ 63 := by omega
    have hmax : k ≤ maxNatural := hle.trans (by decide)
    have hbytes : bytesOf ("-" ++ (-n).toNat.repr).toList = 45 :: bytesOf (Nat.toDigits 10 k) := by
      have hminus : bytesOf "-".toList = [45] := by decide
      rw [hk, Int.toNat_natCast, Nat.repr_eq_ofList_toDigits, String.toList_append, bytesOf_append]
      simp only [String.toList_ofList]
      rw [hminus]
      rfl
    rw [hbytes]
    refine ⟨⟨45, _, rfl, by decide, by decide⟩, fun rest hrest => ?_⟩
    rw [List.cons_append, readValue_minus, unsigned_toDigits hmax true hrest,
      whole_negative hpos hle, ← hk, Int.neg_neg]

section Value

variable {depth : Nat}

theorem isItem_string (s : String) : IsItem (readValue depth) (bytesOf (stringChars s)) (.string s) := by
  have hquote : String.utf8EncodeChar '"' = [34] := by decide
  have hbytes : bytesOf (stringChars s) = 34 :: (bytesOf (s.toList.flatMap escaped) ++ [34]) := by
    simp [stringChars, hquote]
  rw [hbytes]
  refine ⟨⟨34, _, rfl, by decide, by decide⟩, fun rest _ => ?_⟩
  rw [List.cons_append, readValue_quote, List.append_assoc, List.singleton_append,
    readString_stringChars]

theorem enclose_eq_cons (layout : Layout) (indent : Nat) {opening : Char} {o : UInt8}
    (ho : String.utf8EncodeChar opening = [o]) (closing : Char) (parts : List (List Char)) :
    ∃ more, bytesOf (layout.enclose indent opening closing parts) = o :: more := by
  cases parts with
  | nil => exact ⟨bytesOf [closing], by rw [Layout.enclose, bytesOf_cons, ho]; rfl⟩
  | cons first parts =>
    obtain ⟨more, hmore⟩ : ∃ more, layout.enclose indent opening closing (first :: parts) =
        opening :: more := ⟨_, by rw [Layout.enclose]; rfl⟩
    exact ⟨bytesOf more, by rw [hmore, bytesOf_cons, ho]; rfl⟩

/-- A list is read if its items are. -/
theorem isItem_array {items : List Json} (layout : Layout) (indent : Nat)
    (h : ∀ item ∈ items, ∀ indent, IsItem (readValue depth) (bytesOf (item.chars layout indent)) item) :
    IsItem (readValue (depth + 1)) (bytesOf ((Json.array items).chars layout indent)) (.array items) := by
  have hopen : String.utf8EncodeChar '[' = [91] := by decide
  have hclose : String.utf8EncodeChar ']' = [93] := by decide
  rw [chars, itemChars_eq]
  obtain ⟨tail, htail⟩ := enclose_eq_cons layout indent hopen ']'
    (items.map (chars layout (indent + 1)))
  refine ⟨⟨91, tail, htail, by decide, by decide⟩, fun rest _ => ?_⟩
  cases items with
  | nil =>
    rw [List.map_nil, Layout.enclose, show bytesOf ['[', ']'] = [91, 93] by decide]
    exact readValue_bracket depth (93 :: rest)
  | cons first more =>
    have hfirst := h first List.mem_cons_self (indent + 1)
    have hmore : List.Forall₂ (IsItem (readValue depth))
        ((more.map (chars layout (indent + 1))).map bytesOf) more := by
      rw [List.map_map, List.forall₂_map_left_iff, List.forall₂_same]
      exact fun item hitem => h item (List.mem_cons_of_mem _ hitem) _
    rw [List.map_cons, bytesOf_enclose layout indent hopen hclose, List.cons_append,
      List.cons_append, readValue_bracket]
    exact items_following hfirst hmore layout indent rest

/-- A field is read if its value is. -/
theorem isField_chars (name : String) {value : Json} (layout : Layout) {indent : Nat}
    (h : IsItem (readValue depth) (bytesOf (value.chars layout indent)) value) :
    IsField (readValue depth)
      (bytesOf (stringChars name ++ layout.colon ++ value.chars layout indent)) (name, value) := by
  have hquote : String.utf8EncodeChar '"' = [34] := by decide
  obtain ⟨blanks, hblanks, hcolon⟩ :
      ∃ blanks, (∀ b ∈ blanks, isBlank b = true) ∧ bytesOf layout.colon = 58 :: blanks := by
    cases layout with
    | compact => exact ⟨[], by simp, rfl⟩
    | pretty => exact ⟨[32], by simp [isBlank], rfl⟩
  refine ⟨bytesOf (name.toList.flatMap escaped) ++ 34 :: 58 :: (blanks ++
    bytesOf (value.chars layout indent)), by simp [stringChars, hquote, hcolon], fun rest hrest => ?_⟩
  have hvalue : readValue depth (blanks ++ (bytesOf (value.chars layout indent) ++ rest)) =
      .ok (value, rest) := (readValue_append hblanks _ _).trans (h.reads rest hrest)
  have hcolon : skipBlanks (58 :: (blanks ++ (bytesOf (value.chars layout indent) ++ rest))) =
      58 :: (blanks ++ (bytesOf (value.chars layout indent) ++ rest)) := skipBlanks_cons (by decide) _
  simp only [List.append_assoc, List.cons_append, field, readString_stringChars, hcolon, hvalue]

/-- Fields in any order are read as the object that they make, if their values are read. -/
theorem isItem_fields {fields : List (String × Json)} (layout : Layout) (indent : Nat)
    (h : ∀ p ∈ fields, ∀ indent, IsItem (readValue depth) (bytesOf (p.2.chars layout indent)) p.2) :
    IsItem (readValue (depth + 1)) (bytesOf ((Json.object fields).chars layout indent))
      (objectOf fields) := by
  have hopen : String.utf8EncodeChar '\x7b' = [123] := by decide
  have hclose : String.utf8EncodeChar '\x7d' = [125] := by decide
  rw [chars, fieldChars_eq]
  obtain ⟨tail, htail⟩ := enclose_eq_cons layout indent hopen '\x7d'
    (fields.map fun p => stringChars p.1 ++ layout.colon ++ chars layout (indent + 1) p.2)
  refine ⟨⟨123, tail, htail, by decide, by decide⟩, fun rest _ => ?_⟩
  cases fields with
  | nil =>
    rw [List.map_nil, Layout.enclose, show bytesOf ['\x7b', '\x7d'] = [123, 125] by decide]
    exact readValue_brace depth (125 :: rest)
  | cons first more =>
    have hfirst := isField_chars first.1 layout (h first List.mem_cons_self (indent + 1))
    have hmore : List.Forall₂ (IsField (readValue depth)) ((more.map fun p =>
        stringChars p.1 ++ layout.colon ++ chars layout (indent + 1) p.2).map bytesOf) more := by
      rw [List.map_map, List.forall₂_map_left_iff, List.forall₂_same]
      exact fun p hp => isField_chars p.1 layout (h p (List.mem_cons_of_mem _ hp) _)
    rw [List.map_cons, bytesOf_enclose layout indent hopen hclose, List.cons_append,
      List.cons_append, readValue_brace, fieldsOf_following hfirst hmore layout indent rest]

/-- An object is read if its fields are in order and their values are read. -/
theorem isItem_object {fields : List (String × Json)} (layout : Layout) (indent : Nat)
    (horder : InOrder fields)
    (h : ∀ p ∈ fields, ∀ indent, IsItem (readValue depth) (bytesOf (p.2.chars layout indent)) p.2) :
    IsItem (readValue (depth + 1)) (bytesOf ((Json.object fields).chars layout indent))
      (.object fields) := by
  have hread := isItem_fields layout indent h
  rwa [objectOf_of_inOrder horder] at hread

/-- **A value that is written is read back.** -/
theorem isItem_chars {value : Json} (h : Regular ∅ depth value) (layout : Layout)
    (indent : Nat) : IsItem (readValue depth) (bytesOf (value.chars layout indent)) value := by
  induction h generalizing indent with
  | null =>
    rw [chars]
    exact ⟨⟨110, utf8 "ull", by decide, by decide, by decide⟩, fun rest _ => readValue_null _ rest⟩
  | boolean value =>
    rw [chars]
    cases value with
    | false =>
      exact ⟨⟨102, utf8 "alse", by decide, by decide, by decide⟩, fun rest _ => readValue_false _ rest⟩
    | true =>
      exact ⟨⟨116, utf8 "rue", by decide, by decide, by decide⟩, fun rest _ => readValue_true _ rest⟩
  | integer fits =>
    rw [chars]
    exact isItem_integer fits _
  | float mem => cases mem
  | string value =>
    rw [chars]
    exact isItem_string value
  | array _ ih => exact isItem_array layout indent ih
  | object inOrder _ ih => exact isItem_object layout indent inOrder ih

end Value

/-- A text may have blanks behind its value. -/
theorem read_of_isItem {bytes blanks : Bytes} {value : Json}
    (h : IsItem (readValue depthLimit) bytes value) (hblanks : ∀ b ∈ blanks, isBlank b = true) :
    read (bytes ++ blanks) = .ok value := by
  have hcloses : Closes blanks := fun b hb => .inl (hblanks b (List.mem_of_mem_head? hb))
  have hskip : skipBlanks blanks = [] := by
    rw [← List.append_nil blanks, skipBlanks_append hblanks]
    rfl
  rw [read, h.reads blanks hcloses]
  simp only [hskip]

/-- **A text that is written is read back.** -/
theorem read_chars {value : Json} (h : Regular ∅ depthLimit value) (layout : Layout) :
    read (utf8 (String.ofList (value.chars layout 0))) = .ok value := by
  have hnone : ∀ b ∈ ([] : Bytes), isBlank b = true := by simp
  have hread := read_of_isItem (isItem_chars h layout 0) hnone
  rw [List.append_nil] at hread
  rw [utf8_ofList, hread]

end FolderSync.Json
