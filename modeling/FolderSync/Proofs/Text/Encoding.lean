import FolderSync.Disk.Path
import FolderSync.FileName
import Mathlib.Tactic.Common

/-!
# Characters and their bytes

A byte below 128 stands in an encoded text exactly where its character stands in the text
(`mem_utf8_iff`, `head?_utf8_iff`): the bytes of longer characters are all 128 or more.  So the
conditions that `nameFault?` puts on the characters of a name are conditions on its bytes: the name
has no slash (`slash_notMem_of_plain`) and does not begin with a dot (`not_isHidden_of_plain`).

`bytesOf` is the encoding of a list of characters; that of two lists is the one behind the other.
Encoded characters can be cut only where a character begins (`exists_bytesOf_of_append`), so that
tests on the bytes at the front or at the back are tests on characters (`bytesOf_prefix_iff`,
`bytesOf_suffix_iff`).
-/

namespace FolderSync

/-! ### One character -/

/-- The bytes below 128 of a character's encoding: the character's number, if that is below 128. -/
theorem mem_utf8EncodeChar_iff {b : UInt8} (hb : b.toNat < 128) (c : Char) :
    b ∈ String.utf8EncodeChar c ↔ b.toNat = c.toNat := by
  have hval : c.toNat = c.val.toNat := rfl
  unfold String.utf8EncodeChar
  simp only [hval]
  split_ifs with h1 h2 h3 <;>
    simp only [List.mem_cons, List.not_mem_nil, or_false, ← UInt8.toNat_inj, UInt8.toNat_ofNat'] <;>
    omega

theorem head?_utf8EncodeChar_iff {b : UInt8} (hb : b.toNat < 128) (c : Char) :
    (String.utf8EncodeChar c).head? = some b ↔ c.toNat = b.toNat := by
  have hval : c.toNat = c.val.toNat := rfl
  unfold String.utf8EncodeChar
  simp only [hval]
  split_ifs with h1 h2 h3 <;>
    simp only [List.head?_cons, Option.some.injEq, ← UInt8.toNat_inj, UInt8.toNat_ofNat'] <;>
    omega

/-! ### Texts -/

theorem utf8_eq_flatMap (s : String) : utf8 s = s.toList.flatMap String.utf8EncodeChar := by
  rw [utf8, ← String.utf8Encode_toList, List.utf8Encode, List.toList_data_toByteArray]

/-- The encoding of characters. -/
def bytesOf (cs : List Char) : Bytes := cs.flatMap String.utf8EncodeChar

@[simp] theorem bytesOf_nil : bytesOf [] = [] := rfl

@[simp] theorem bytesOf_cons (c : Char) (cs : List Char) :
    bytesOf (c :: cs) = String.utf8EncodeChar c ++ bytesOf cs := rfl

@[simp] theorem bytesOf_append (cs ds : List Char) :
    bytesOf (cs ++ ds) = bytesOf cs ++ bytesOf ds := List.flatMap_append ..

theorem utf8_eq_bytesOf (s : String) : utf8 s = bytesOf s.toList := utf8_eq_flatMap s

theorem utf8_ofList (cs : List Char) : utf8 (String.ofList cs) = bytesOf cs := by
  rw [utf8_eq_bytesOf, String.toList_ofList]

/-- A character below 128 is encoded by its number. -/
theorem utf8EncodeChar_of_ascii {c : Char} (hc : c.toNat < 128) :
    String.utf8EncodeChar c = [UInt8.ofNat c.toNat] := by
  have hval : c.val.toNat ≤ 127 := Nat.le_of_lt_succ hc
  rw [String.utf8EncodeChar, if_pos hval]
  rfl

theorem toNat_eq_iff_eq_ofNat {n : Nat} (hn : n < 128) (c : Char) :
    n = c.toNat ↔ c = Char.ofNat n := by
  constructor
  · rintro rfl
    exact (Char.ofNat_toNat c).symm
  · rintro rfl
    have hvalid : n.isValidChar := Or.inl (by omega)
    rw [Char.ofNat, dif_pos hvalid]
    rfl

/-- A byte below 128 stands in the encoding just if its character stands in the text. -/
theorem mem_utf8_iff {b : UInt8} (hb : b.toNat < 128) (s : String) :
    b ∈ utf8 s ↔ Char.ofNat b.toNat ∈ s.toList := by
  rw [utf8_eq_flatMap, List.mem_flatMap]
  constructor
  · rintro ⟨c, hc, hbc⟩
    rw [mem_utf8EncodeChar_iff hb, toNat_eq_iff_eq_ofNat hb] at hbc
    exact hbc ▸ hc
  · intro hc
    exact ⟨_, hc, (mem_utf8EncodeChar_iff hb _).2 ((toNat_eq_iff_eq_ofNat hb _).2 rfl)⟩

/-- The encoding begins with a byte below 128 just if the text begins with its character. -/
theorem head?_utf8_iff {b : UInt8} (hb : b.toNat < 128) (s : String) :
    (utf8 s).head? = some b ↔ s.toList.head? = some (Char.ofNat b.toNat) := by
  rw [utf8_eq_flatMap]
  cases s.toList with
  | nil => simp
  | cons c rest =>
    have hhead : ((c :: rest).flatMap String.utf8EncodeChar).head? =
        (String.utf8EncodeChar c).head? := by
      obtain ⟨x, xs, hx⟩ := List.exists_cons_of_ne_nil (String.utf8EncodeChar_ne_nil (c := c))
      rw [List.flatMap_cons, hx]
      rfl
    rw [hhead, head?_utf8EncodeChar_iff hb, List.head?_cons, Option.some.injEq, eq_comm,
      toNat_eq_iff_eq_ofNat hb]

theorem utf8_eq_nil_iff {s : String} : utf8 s = [] ↔ s = "" := by
  constructor
  · exact fun h => utf8_injective h
  · rintro rfl
    rfl

/-- No text has more characters than bytes. -/
theorem length_toList_le (s : String) : s.toList.length ≤ (utf8 s).length := by
  rw [utf8_eq_flatMap]
  induction s.toList with
  | nil => simp
  | cons c rest ih =>
    have hc : 0 < (String.utf8EncodeChar c).length :=
      List.length_pos_iff.2 String.utf8EncodeChar_ne_nil
    rw [List.flatMap_cons, List.length_append, List.length_cons]
    omega

/-! ### Parts of texts -/

/-- An encoded character at the front is that of one character only. -/
theorem eq_of_utf8EncodeChar_append {c d : Char} {x y : Bytes}
    (h : String.utf8EncodeChar c ++ x = String.utf8EncodeChar d ++ y) : c = d ∧ x = y := by
  have hdecode : ∀ (e : Char) (z : Bytes),
      ByteArray.utf8DecodeChar? (String.utf8EncodeChar e ++ z).toByteArray 0 = some e := by
    intro e z
    rw [List.toByteArray_append]
    exact ByteArray.utf8DecodeChar?_utf8EncodeChar_append
  have hc := hdecode c x
  rw [h, hdecode d y, Option.some.injEq] at hc
  subst hc
  exact ⟨rfl, List.append_cancel_left h⟩

/-- Encoded characters in front of others are characters in front of others. -/
theorem bytesOf_prefix_iff {cs ds : List Char} : bytesOf cs <+: bytesOf ds ↔ cs <+: ds := by
  constructor
  · rintro ⟨rest, h⟩
    induction cs generalizing ds with
    | nil => exact List.nil_prefix
    | cons c cs ih =>
      cases ds with
      | nil => simp at h
      | cons d ds =>
        rw [bytesOf_cons, bytesOf_cons, List.append_assoc] at h
        obtain ⟨rfl, hrest⟩ := eq_of_utf8EncodeChar_append h
        exact List.cons_prefix_cons.2 ⟨rfl, ih hrest⟩
  · rintro ⟨rest, rfl⟩
    rw [bytesOf_append]
    exact List.prefix_append _ _

/-- Encoded characters can only be cut in front of a byte with which a character begins. -/
theorem exists_bytesOf_of_append {cs : List Char} {front back : Bytes} (h : bytesOf cs = front ++ back)
    (hback : ∀ b ∈ back.head?, b.IsUTF8FirstByte) :
    ∃ us vs, cs = us ++ vs ∧ front = bytesOf us ∧ back = bytesOf vs := by
  induction cs generalizing front with
  | nil =>
    obtain ⟨rfl, rfl⟩ := List.append_eq_nil_iff.1 h.symm
    exact ⟨[], [], rfl, rfl, rfl⟩
  | cons c cs ih =>
    rw [bytesOf_cons, List.append_eq_append_iff] at h
    rcases h with ⟨more, rfl, hcs⟩ | ⟨more, hc, rfl⟩
    · obtain ⟨us, vs, rfl, rfl, hvs⟩ := ih hcs
      exact ⟨c :: us, vs, rfl, rfl, hvs⟩
    · cases more with
      | nil =>
        exact ⟨[c], cs, rfl, by simpa using hc.symm, rfl⟩
      | cons b more =>
        -- only the first byte of a character begins one
        have hlt : front.length < (String.utf8EncodeChar c).length := by simp [hc]
        have hb : (String.utf8EncodeChar c)[front.length] = b := by simp [hc]
        have hfirst := hback b rfl
        rw [← hb, UInt8.isUTF8FirstByte_getElem_utf8EncodeChar, List.length_eq_zero_iff] at hfirst
        subst hfirst
        exact ⟨[], c :: cs, rfl, rfl, by rw [bytesOf_cons, hc]; rfl⟩

/-- The first byte of encoded characters begins one. -/
theorem isUTF8FirstByte_of_mem_head? {cs : List Char} {b : UInt8} (h : b ∈ (bytesOf cs).head?) :
    b.IsUTF8FirstByte := by
  cases cs with
  | nil => cases h
  | cons c cs =>
    have hpos : 0 < (String.utf8EncodeChar c).length :=
      List.length_pos_iff.2 String.utf8EncodeChar_ne_nil
    rw [bytesOf_cons, List.head?_eq_getElem?, List.getElem?_append_left hpos,
      List.getElem?_eq_getElem hpos, Option.mem_some] at h
    subst h
    exact UInt8.isUTF8FirstByte_getElem_utf8EncodeChar.2 rfl

theorem bytesOf_inj {cs ds : List Char} : bytesOf cs = bytesOf ds ↔ cs = ds := by
  constructor
  · intro h
    have htext : String.ofList cs = String.ofList ds := utf8_injective (by rw [utf8_ofList, utf8_ofList, h])
    simpa using congrArg String.toList htext
  · exact congrArg bytesOf

/-- Encoded characters behind others are characters behind others. -/
theorem bytesOf_suffix_iff {cs ds : List Char} : bytesOf cs <:+ bytesOf ds ↔ cs <:+ ds := by
  constructor
  · rintro ⟨front, h⟩
    obtain ⟨us, vs, rfl, -, hvs⟩ :=
      exists_bytesOf_of_append h.symm fun _ hb => isUTF8FirstByte_of_mem_head? hb
    obtain rfl := bytesOf_inj.1 hvs
    exact List.suffix_append _ _
  · rintro ⟨front, rfl⟩
    rw [bytesOf_append]
    exact List.suffix_append _ _

/-! ### Plain names -/

/-- The byte `.`, with which hidden names begin. -/
def dotByte : UInt8 := 46

/-- Is the name hidden from view? -/
def Name.IsHidden (name : Name) : Prop := name.head? = some dotByte

instance (name : Name) : Decidable name.IsHidden :=
  inferInstanceAs (Decidable (name.head? = some dotByte))

/-- A hidden text is the name of nothing that a filter accepts. -/
theorem isHidden_utf8_iff {s : String} : Name.IsHidden (utf8 s) ↔ s.toList.head? = some '.' :=
  head?_utf8_iff (b := dotByte) (by decide) s

/-- What `nameFault?` leaves over, in characters. -/
theorem nameFault?_eq_none_iff {name : String} :
    nameFault? name = none ↔ name ≠ "" ∧ '/' ∉ name.toList ∧ '\\' ∉ name.toList ∧
      '\x00' ∉ name.toList ∧ name.toList.head? ≠ some '.' := by
  unfold nameFault?
  split_ifs with h1 h2 h3 h4 h5
  · simp [h1]
  · rcases h2 with rfl | rfl <;> simp
  · simp only [false_iff]
    tauto
  · simp [h4]
  · simp [h5]
  · simp only [true_iff]
    tauto

variable {name : String}

theorem utf8_ne_nil_of_plain (h : nameFault? name = none) : utf8 name ≠ [] :=
  fun he => (nameFault?_eq_none_iff.1 h).1 (utf8_eq_nil_iff.1 he)

theorem slash_notMem_of_plain (h : nameFault? name = none) : slashByte ∉ utf8 name := by
  rw [mem_utf8_iff (by decide)]
  exact (nameFault?_eq_none_iff.1 h).2.1

theorem zero_notMem_of_plain (h : nameFault? name = none) : 0 ∉ utf8 name := by
  rw [mem_utf8_iff (by decide)]
  exact (nameFault?_eq_none_iff.1 h).2.2.2.1

theorem not_isHidden_of_plain (h : nameFault? name = none) : ¬ Name.IsHidden (utf8 name) := by
  rw [isHidden_utf8_iff]
  exact (nameFault?_eq_none_iff.1 h).2.2.2.2

end FolderSync
