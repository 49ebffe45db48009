import FolderSync.Proofs.Hashing
import FolderSync.Proofs.Text.Encoding
import Mathlib.Data.String.Basic

/-!
# Hashes as digests

A content hash is the one lowercase spelling of twenty bytes.  So to compare hashes as texts, for equality
or for order, is to compare the digests that they spell (`ContentHash.canonical_form`).

* `Spells`: the bytes that hexadecimal digits spell, two for each byte, in either letter case.
* `ContentHash.parse?_eq_ofDigest_iff`: reading a hash is finding the bytes that it spells.
* `flatMap_byteDigits_lt_iff`: digits are ordered as the bytes that they spell.
-/

namespace FolderSync

/-! ### Digits -/

theorem isHexDigit_of_isLowerHex {c : Char} (h : isLowerHex c = true) : isHexDigit c = true := by
  rw [isHexDigit, h, Bool.true_or]

/-- What holds of the characters below 128 can be looked up. -/
theorem forall_ascii {P : Char → Prop} (all : ∀ n : Fin 128, P (Char.ofNat n)) {c : Char}
    (h : c.toNat < 128) : P c := by
  have hc := all ⟨c.toNat, h⟩
  rwa [Char.ofNat_toNat] at hc

theorem toLower_of_isLowerHex {c : Char} (h : isLowerHex c = true) : c.toLower = c :=
  forall_ascii (P := fun c => isLowerHex c = true → c.toLower = c) (by decide)
    (toNat_lt_of_isHexDigit (isHexDigit_of_isLowerHex h)) h

theorem mem_digits_of_isLowerHex {c : Char} (h : isLowerHex c = true) :
    c ∈ "0123456789abcdef".toList :=
  forall_ascii (P := fun c => isLowerHex c = true → c ∈ "0123456789abcdef".toList) (by decide)
    (toNat_lt_of_isHexDigit (isHexDigit_of_isLowerHex h)) h

/-- In lower case, a digit is the one of its value. -/
theorem hexDigit_hexValue {c : Char} (h : isHexDigit c = true) :
    hexValue c < 16 ∧ hexDigit (hexValue c) = c.toLower :=
  forall_ascii (P := fun c => isHexDigit c = true → hexValue c < 16 ∧ hexDigit (hexValue c) = c.toLower)
    (by decide) (toNat_lt_of_isHexDigit h) h

theorem hexValue_hexDigit {n : Nat} (h : n < 16) : hexValue (hexDigit n) = n := by
  have all : ∀ k : Fin 16, hexValue (hexDigit k) = k := by decide
  exact all ⟨n, h⟩

theorem hexDigit_lt_iff {m n : Nat} (hm : m < 16) (hn : n < 16) : hexDigit m < hexDigit n ↔ m < n := by
  have all : ∀ k l : Fin 16, hexDigit k < hexDigit l ↔ k < l := by decide
  exact all ⟨m, hm⟩ ⟨n, hn⟩

theorem hexDigit_inj {m n : Nat} (hm : m < 16) (hn : n < 16) : hexDigit m = hexDigit n ↔ m = n := by
  constructor
  · intro h
    rw [← hexValue_hexDigit hm, h, hexValue_hexDigit hn]
  · exact congrArg hexDigit

/-! ### Bytes spelled -/

/-- The digits spell the bytes: two for each byte, the one of higher value first, of either letter
case. -/
inductive Spells : List Char → Bytes → Prop
  | nil : Spells [] []
  | cons {high low : Char} {digits : List Char} {b : UInt8} {bytes : Bytes}
      (isHexDigit_high : isHexDigit high = true) (isHexDigit_low : isHexDigit low = true)
      (value : 16 * hexValue high + hexValue low = b.toNat) (more : Spells digits bytes) :
      Spells (high :: low :: digits) (b :: bytes)

theorem spells_byteDigits (bytes : Bytes) : Spells (bytes.flatMap byteDigits) bytes := by
  induction bytes with
  | nil => exact .nil
  | cons b bytes ih =>
    have hb := b.toNat_lt
    have hhigh : b.toNat / 16 < 16 := by omega
    have hlow : b.toNat % 16 < 16 := by omega
    refine .cons (isHexDigit_of_isLowerHex (isLowerHex_hexDigit hhigh))
      (isHexDigit_of_isLowerHex (isLowerHex_hexDigit hlow)) ?_ ih
    rw [hexValue_hexDigit hhigh, hexValue_hexDigit hlow]
    omega

namespace Spells

variable {digits : List Char} {bytes other : Bytes}

theorem length_eq (h : Spells digits bytes) : digits.length = 2 * bytes.length := by
  induction h with
  | nil => rfl
  | cons _ _ _ _ ih =>
    simp only [List.length_cons, ih]
    omega

theorem isHexDigit_of_mem (h : Spells digits bytes) : ∀ c ∈ digits, isHexDigit c = true := by
  induction h with
  | nil => simp
  | cons hhigh hlow _ _ ih => exact List.forall_mem_cons.2 ⟨hhigh, List.forall_mem_cons.2 ⟨hlow, ih⟩⟩

/-- In lower case there is one spelling. -/
theorem map_toLower (h : Spells digits bytes) : digits.map Char.toLower = bytes.flatMap byteDigits := by
  induction h with
  | nil => rfl
  | @cons high low digits b bytes hhigh hlow hvalue _ ih =>
    obtain ⟨hhigh16, hhigh⟩ := hexDigit_hexValue hhigh
    obtain ⟨hlow16, hlow⟩ := hexDigit_hexValue hlow
    have hquotient : b.toNat / 16 = hexValue high := by omega
    have hremainder : b.toNat % 16 = hexValue low := by omega
    rw [List.map_cons, List.map_cons, ih, List.flatMap_cons, byteDigits, hquotient, hremainder, hhigh, hlow]
    rfl

/-- Digits spell one sequence of bytes only. -/
theorem unique (h : Spells digits bytes) (h' : Spells digits other) : bytes = other := by
  induction h generalizing other with
  | nil =>
    cases h'
    rfl
  | cons _ _ hvalue _ ih =>
    cases h' with
    | cons _ _ hvalue' hmore' =>
      rw [UInt8.toNat_inj.1 (hvalue.symm.trans hvalue'), ih hmore']

end Spells

/-- An even number of digits spells bytes. -/
theorem exists_spells {digits : List Char} {n : Nat} (hlength : digits.length = 2 * n)
    (hdigits : ∀ c ∈ digits, isHexDigit c = true) : ∃ bytes, bytes.length = n ∧ Spells digits bytes := by
  induction n generalizing digits with
  | zero =>
    obtain rfl := List.length_eq_zero_iff.1 hlength
    exact ⟨[], rfl, .nil⟩
  | succ n ih =>
    match digits, hlength with
    | high :: low :: digits, hlength =>
      obtain ⟨hhigh, hlow, hmore⟩ : isHexDigit high = true ∧ isHexDigit low = true ∧
          ∀ c ∈ digits, isHexDigit c = true := by simpa using hdigits
      obtain ⟨bytes, hn, hspells⟩ := ih (by simpa [Nat.mul_succ] using hlength) hmore
      have hhigh16 := (hexDigit_hexValue hhigh).1
      have hlow16 := (hexDigit_hexValue hlow).1
      refine ⟨UInt8.ofNat (16 * hexValue high + hexValue low) :: bytes, by rw [List.length_cons, hn], ?_⟩
      refine .cons hhigh hlow ?_ hspells
      rw [UInt8.toNat_ofNat']
      omega

/-- Lowercase digits are ordered as the bytes that they spell. -/
theorem flatMap_byteDigits_lt_iff {a b : Bytes} :
    a.flatMap byteDigits < b.flatMap byteDigits ↔ a < b := by
  induction a generalizing b with
  | nil =>
    cases b with
    | nil => exact iff_of_false (List.not_lt_nil _) (List.not_lt_nil _)
    | cons y b => exact iff_of_true (List.nil_lt_cons _ _) (List.nil_lt_cons _ _)
  | cons x a ih =>
    cases b with
    | nil => exact iff_of_false (List.not_lt_nil _) (List.not_lt_nil _)
    | cons y b =>
      have hx := x.toNat_lt
      have hy := y.toNat_lt
      simp only [List.flatMap_cons, byteDigits, List.cons_append, List.nil_append, List.cons_lt_cons_iff, ih,
        UInt8.lt_iff_toNat_lt, ← UInt8.toNat_inj]
      rw [hexDigit_lt_iff (by omega) (by omega), hexDigit_lt_iff (by omega) (by omega),
        hexDigit_inj (by omega) (by omega), hexDigit_inj (by omega) (by omega)]
      -- bytes are ordered by their quotients by sixteen and then by their remainders
      constructor
      · rintro (h | ⟨h, h' | ⟨h', hab⟩⟩)
        · exact .inl (by omega)
        · exact .inl (by omega)
        · exact .inr ⟨by omega, hab⟩
      · rintro (h | ⟨h, hab⟩)
        · by_cases hquotient : x.toNat / 16 = y.toNat / 16
          · exact .inr ⟨hquotient, .inl (by omega)⟩
          · exact .inl (by omega)
        · exact .inr ⟨by omega, .inr ⟨by omega, hab⟩⟩

/-! ### Digits among bytes -/

/-- Is the byte a hexadecimal digit of either case? -/
def isHexByte (b : UInt8) : Bool := (48 ≤ b && b ≤ 57) || (65 ≤ b && b ≤ 70) || (97 ≤ b && b ≤ 102)

theorem isHexDigit_eq_isHexByte {c : Char} (h : c.toNat < 128) :
    isHexDigit c = isHexByte (UInt8.ofNat c.toNat) :=
  forall_ascii (P := fun c => isHexDigit c = isHexByte (UInt8.ofNat c.toNat)) (by decide) h

theorem toNat_lt_of_isHexByte {b : UInt8} (h : isHexByte b = true) : b.toNat < 128 := by
  simp only [isHexByte, Bool.or_eq_true, Bool.and_eq_true, decide_eq_true_eq, UInt8.le_iff_toNat_le] at h
  have h57 : (57 : UInt8).toNat = 57 := rfl
  have h70 : (70 : UInt8).toNat = 70 := rfl
  have h102 : (102 : UInt8).toNat = 102 := rfl
  omega

/-- Characters below 128 are as many bytes. -/
theorem bytesOf_of_ascii {cs : List Char} (h : ∀ c ∈ cs, c.toNat < 128) :
    bytesOf cs = cs.map fun c => UInt8.ofNat c.toNat := by
  induction cs with
  | nil => rfl
  | cons c cs ih =>
    rw [bytesOf_cons, utf8EncodeChar_of_ascii (h c List.mem_cons_self),
      ih fun d hd => h d (List.mem_cons_of_mem _ hd)]
    rfl

/-- The bytes of a text are digits just if its characters are. -/
theorem forall_isHexByte_iff {text : String} :
    (∀ b ∈ utf8 text, isHexByte b = true) ↔ ∀ c ∈ text.toList, isHexDigit c = true := by
  rw [utf8_eq_bytesOf]
  constructor
  · intro h c hc
    obtain ⟨b, hb⟩ := List.exists_mem_of_ne_nil _ (String.utf8EncodeChar_ne_nil (c := c))
    have hhex := h b (List.mem_flatMap.2 ⟨c, hc, hb⟩)
    have hsmall := toNat_lt_of_isHexByte hhex
    have hcode := (mem_utf8EncodeChar_iff hsmall c).1 hb
    rw [isHexDigit_eq_isHexByte (hcode ▸ hsmall), ← hcode, UInt8.ofNat_toNat]
    exact hhex
  · intro h
    have hsmall := fun c hc => toNat_lt_of_isHexDigit (h c hc)
    rw [bytesOf_of_ascii hsmall]
    intro b hb
    obtain ⟨c, hc, rfl⟩ := List.mem_map.1 hb
    rw [← isHexDigit_eq_isHexByte (hsmall c hc)]
    exact h c hc

/-- Forty bytes that are digits are forty characters that are. -/
theorem forty_bytes_iff {text : String} :
    ((utf8 text).length = 40 ∧ ∀ b ∈ utf8 text, isHexByte b = true) ↔
      (text.toList.length = 40 ∧ ∀ c ∈ text.toList, isHexDigit c = true) := by
  rw [forall_isHexByte_iff, and_congr_left_iff]
  intro h
  rw [utf8_eq_bytesOf, bytesOf_of_ascii fun c hc => toNat_lt_of_isHexDigit (h c hc), List.length_map]

/-! ### Hashes -/

namespace ContentHash

variable {text : String} {hash other : ContentHash} {digest : Bytes}

theorem parse?_eq_some_iff :
    parse? text = some hash ↔ (text.toList.length = 40 ∧ ∀ c ∈ text.toList, isHexDigit c = true) ∧
      hash.hex = String.ofList (text.toList.map Char.toLower) := by
  unfold parse?
  rw [← List.all_eq_true]
  split
  · rename_i h
    rw [Option.some.injEq, ContentHash.ext_iff, eq_comm]
    exact ⟨fun heq => ⟨h, heq⟩, fun heq => heq.2⟩
  · rename_i h
    exact ⟨fun hnone => (by cases hnone), fun heq => absurd heq.1 h⟩

theorem toList_hex_ofDigest (hdigest : digest.length = 20) :
    (ofDigest digest hdigest).hex.toList = digest.flatMap byteDigits := String.toList_ofList

theorem spells_ofDigest (hdigest : digest.length = 20) :
    Spells (ofDigest digest hdigest).hex.toList digest := by
  rw [toList_hex_ofDigest]
  exact spells_byteDigits digest

/-- A hash is in lower case. -/
theorem map_toLower_hex (hash : ContentHash) : hash.hex.toList.map Char.toLower = hash.hex.toList := by
  rw [List.map_congr_left fun c hc => toLower_of_isLowerHex (hash.isLowerHex_hex c hc), List.map_id']

/-- Every hash is the spelling of a digest. -/
theorem exists_eq_ofDigest (hash : ContentHash) :
    ∃ digest, ∃ hdigest : digest.length = 20, hash = ofDigest digest hdigest := by
  have hdigits : ∀ c ∈ hash.hex.toList, isHexDigit c = true := fun c hc =>
    isHexDigit_of_isLowerHex (hash.isLowerHex_hex c hc)
  obtain ⟨digest, hdigest, hspells⟩ := exists_spells (n := 20) hash.length_hex hdigits
  refine ⟨digest, hdigest, ext ?_⟩
  rw [← String.toList_inj, toList_hex_ofDigest, ← hspells.map_toLower, map_toLower_hex]

/-- A hash is read from each spelling of its digest, and from nothing else. -/
theorem parse?_eq_ofDigest_iff (hdigest : digest.length = 20) :
    parse? text = some (ofDigest digest hdigest) ↔ Spells text.toList digest := by
  rw [parse?_eq_some_iff, ← String.toList_inj, toList_hex_ofDigest, String.toList_ofList]
  constructor
  · rintro ⟨⟨hlength, hdigits⟩, hhex⟩
    obtain ⟨other, -, hspells⟩ := exists_spells (n := 20) hlength hdigits
    rw [hspells.map_toLower] at hhex
    have hsame : other = digest :=
      (spells_byteDigits other).unique (hhex ▸ spells_byteDigits digest)
    exact hsame ▸ hspells
  · intro hspells
    refine ⟨⟨?_, hspells.isHexDigit_of_mem⟩, hspells.map_toLower.symm⟩
    rw [hspells.length_eq, hdigest]

theorem isSome_parse?_iff : (parse? text).isSome = true ↔
    text.toList.length = 40 ∧ ∀ c ∈ text.toList, isHexDigit c = true := by
  unfold parse?
  rw [← List.all_eq_true]
  split
  · exact iff_of_true rfl ‹_›
  · exact iff_of_false Bool.false_ne_true ‹_›

/-- The texts that are read spell twenty bytes. -/
theorem isSome_parse?_iff_spells : (parse? text).isSome = true ↔
    ∃ digest, digest.length = 20 ∧ Spells text.toList digest := by
  rw [Option.isSome_iff_exists]
  constructor
  · rintro ⟨hash, h⟩
    obtain ⟨digest, hdigest, rfl⟩ := exists_eq_ofDigest hash
    exact ⟨digest, hdigest, (parse?_eq_ofDigest_iff hdigest).1 h⟩
  · rintro ⟨digest, hdigest, hspells⟩
    exact ⟨_, (parse?_eq_ofDigest_iff hdigest).2 hspells⟩

theorem ofDigest_inj {a b : Bytes} (ha : a.length = 20) (hb : b.length = 20) :
    ofDigest a ha = ofDigest b hb ↔ a = b := by
  constructor
  · intro h
    exact (spells_ofDigest ha).unique (h ▸ spells_ofDigest hb)
  · exact fun h => ofDigest_congr h ha hb

/-- Hashes are ordered as their digests. -/
theorem compare_ofDigest {a b : Bytes} (ha : a.length = 20) (hb : b.length = 20) :
    (ofDigest a ha).compare (ofDigest b hb) = compareOfLessAndEq a b := by
  have hlt : (ofDigest a ha).hex < (ofDigest b hb).hex ↔ a < b := by
    rw [String.lt_iff_toList_lt, toList_hex_ofDigest, toList_hex_ofDigest, flatMap_byteDigits_lt_iff]
  have heq : (ofDigest a ha).hex = (ofDigest b hb).hex ↔ a = b := by
    rw [← ContentHash.ext_iff, ofDigest_inj]
  simp only [compare, compareOfLessAndEq, hlt, heq]

/-- How a hash comes about: it is read, or it is the hash of a content, of what a reader delivers, of
a file, or of what a writer has taken. -/
inductive Obtained : ContentHash → Prop
  | parsed {text : String} {hash : ContentHash} (h : parse? text = some hash) : Obtained hash
  | ofContent (content : Bytes) : Obtained (of content)
  | ofReader {ε : Type} {reads : List (Read ε)} {hash : ContentHash} (h : ofReads reads = .ok hash) :
      Obtained hash
  | ofFile {d : Disk} {p : Path} {hash : ContentHash} (h : d.hashFile p = .ok hash) : Obtained hash
  | finished {σ : Type} (writer : Sink.Hashing σ) : Obtained writer.hash

/-- **A content hash is the canonical form of a digest of twenty bytes.**  However it was obtained it has
forty digits of `0`-`9` and `a`-`f`, and it is read as itself.  A text is read just if it spells twenty
bytes, in whatever case, which is to say that its own bytes are forty digits; two texts have one hash just
if they spell the same bytes, and a text has the hash of a content just if it spells the content's digest.
Hashes are in the lexicographic order of the digests that they spell. -/
theorem canonical_form :
    (∀ hash, Obtained hash → (hash.hex.toList.length = 40 ∧
        ∀ c ∈ hash.hex.toList, c ∈ "0123456789abcdef".toList) ∧ parse? hash.hex = some hash) ∧
      (∀ s, (parse? s).isSome = true ↔ ∃ digest, digest.length = 20 ∧ Spells s.toList digest) ∧
      (∀ s, (parse? s).isSome = true ↔ (utf8 s).length = 40 ∧ ∀ b ∈ utf8 s, isHexByte b = true) ∧
      (∀ s t, (parse? s).isSome = true → (parse? t).isSome = true →
        (parse? s = parse? t ↔ ∃ digest, Spells s.toList digest ∧ Spells t.toList digest)) ∧
      (∀ s content, parse? s = some (of content) ↔ Spells s.toList (Sha1.digest content)) ∧
      (∀ (hash other : ContentHash) (a b : Bytes), Spells hash.hex.toList a → Spells other.hex.toList b →
        hash.compare other = compareOfLessAndEq a b) := by
  refine ⟨fun hash _ => ⟨⟨hash.length_hex, fun c hc => ?_⟩, ?_⟩, fun s => isSome_parse?_iff_spells,
    fun s => ?_, fun s t hs ht => ?_, fun s content => parse?_eq_ofDigest_iff _,
    fun hash other a b ha hb => ?_⟩
  · exact mem_digits_of_isLowerHex (hash.isLowerHex_hex c hc)
  · obtain ⟨digest, hdigest, rfl⟩ := exists_eq_ofDigest hash
    exact (parse?_eq_ofDigest_iff hdigest).2 (spells_ofDigest hdigest)
  · rw [forty_bytes_iff, isSome_parse?_iff]
  · obtain ⟨digest, hdigest, hspells⟩ := isSome_parse?_iff_spells.1 hs
    rw [(parse?_eq_ofDigest_iff hdigest).2 hspells, eq_comm, parse?_eq_ofDigest_iff hdigest]
    constructor
    · exact fun h => ⟨digest, hspells, h⟩
    · rintro ⟨same, hs, ht⟩
      exact hspells.unique hs ▸ ht
  · obtain ⟨digest, hdigest, rfl⟩ := exists_eq_ofDigest hash
    obtain ⟨digest', hdigest', rfl⟩ := exists_eq_ofDigest other
    obtain rfl := ha.unique (spells_ofDigest hdigest)
    obtain rfl := hb.unique (spells_ofDigest hdigest')
    exact compare_ofDigest hdigest hdigest'

/-- The content `abc`, whose hash is spelled in both cases, and the empty content. -/
theorem canonical_form_abc :
    parse? "A9993E364706816ABA3E25717850C26C9CD0D89D" = parse? "a9993e364706816aba3e25717850c26c9cd0d89d" ∧
      Spells "A9993E364706816ABA3E25717850C26C9CD0D89D".toList (Sha1.digest (utf8 "abc")) ∧
      (of (utf8 "abc")).compare (of []) = .lt := by
  obtain ⟨-, -, -, hsame, hcontent, horder⟩ := canonical_form
  have hupper : parse? "A9993E364706816ABA3E25717850C26C9CD0D89D" = some (of (utf8 "abc")) := by decide +kernel
  have hlower : parse? "a9993e364706816aba3e25717850c26c9cd0d89d" = some (of (utf8 "abc")) := by decide +kernel
  have hspells := (hcontent _ _).1 hupper
  refine ⟨?_, hspells, ?_⟩
  · exact (hsame _ _ (by rw [hupper]; rfl) (by rw [hlower]; rfl)).2 ⟨_, hspells, (hcontent _ _).1 hlower⟩
  · exact (horder (of (utf8 "abc")) (of []) _ _ (spells_ofDigest (Sha1.length_digest _))
      (spells_ofDigest (Sha1.length_digest _))).trans (by decide +kernel)

end ContentHash

end FolderSync
