import FolderSync.Json.Reader
import FolderSync.Proofs.Text.Encoding
import Mathlib.Data.Nat.Digits.Defs
import Mathlib.Tactic.Positivity

/-!
# Whole numbers

The decimal form of a number that 64 bits hold is read as that number, if what follows is no part of
a number (`unsigned_toDigits`).
-/

namespace FolderSync.Json

/-- What may stand behind a value: a blank, a comma, a closing bracket, or nothing. -/
def Closes (rest : Bytes) : Prop :=
  ∀ b ∈ rest.head?, isBlank b = true ∨ b = 44 ∨ b = 93 ∨ b = 125

/-- It is no digit, no point and no exponent. -/
theorem Closes.not_numeric {rest : Bytes} (h : Closes rest) :
    ∀ b ∈ rest.head?, isDigit b = false ∧ b ≠ 46 ∧ b ≠ 101 ∧ b ≠ 69 := by
  intro b hb
  rcases h b hb with hblank | rfl | rfl | rfl
  · simp only [isBlank, Bool.or_eq_true, decide_eq_true_eq] at hblank
    rcases hblank with ((rfl | rfl) | rfl) | rfl <;> decide
  all_goals decide

theorem isDigit_ofNat {c : Char} (h : c.isDigit = true) :
    c.toNat < 128 ∧ 48 ≤ c.toNat ∧ c.toNat ≤ 57 := by
  rw [Char.isDigit, Bool.and_eq_true, decide_eq_true_eq, decide_eq_true_eq] at h
  have hlow : 48 ≤ c.toNat := UInt32.le_iff_toNat_le.1 h.1
  have hhigh : c.toNat ≤ 57 := UInt32.le_iff_toNat_le.1 h.2
  omega

theorem bytesOf_digits_cons {c : Char} (h : c.isDigit = true) (cs : List Char) :
    bytesOf (c :: cs) = UInt8.ofNat c.toNat :: bytesOf cs ∧ isDigit (UInt8.ofNat c.toNat) = true ∧
      (UInt8.ofNat c.toNat).toNat = c.toNat := by
  obtain ⟨hascii, hlow, hhigh⟩ := isDigit_ofNat h
  have hbyte : (UInt8.ofNat c.toNat).toNat = c.toNat := by
    rw [UInt8.toNat_ofNat']
    omega
  refine ⟨by rw [bytesOf_cons, utf8EncodeChar_of_ascii hascii]; rfl, ?_, hbyte⟩
  simp only [isDigit, Bool.and_eq_true, decide_eq_true_eq, UInt8.le_iff_toNat_le, hbyte]
  exact ⟨hlow, hhigh⟩

theorem isDigit_of_mem_bytesOf {cs : List Char} (h : ∀ c ∈ cs, c.isDigit = true) :
    ∀ b ∈ bytesOf cs, isDigit b = true := by
  induction cs with
  | nil => simp
  | cons c cs ih =>
    obtain ⟨hbytes, hdigit, -⟩ := bytesOf_digits_cons (h c List.mem_cons_self) cs
    rw [hbytes]
    intro b hb
    rcases List.mem_cons.1 hb with rfl | hb
    · exact hdigit
    · exact ih (fun c hc => h c (List.mem_cons_of_mem _ hc)) b hb

/-- Digits whose number stays within the limit are all taken. -/
theorem absorb_digits {limit : Nat} {cs : List Char} (h : ∀ c ∈ cs, c.isDigit = true) (start : Nat)
    (hle : Nat.ofDigitChars 10 cs start ≤ limit) :
    absorb limit start (bytesOf cs) = (Nat.ofDigitChars 10 cs start, []) := by
  induction cs generalizing start with
  | nil => rfl
  | cons c cs ih =>
    obtain ⟨hbytes, -, hvalue⟩ := bytesOf_digits_cons (h c List.mem_cons_self) cs
    rw [Nat.ofDigitChars_cons, show '0'.toNat = 48 from rfl, Nat.mul_comm] at hle ⊢
    have hgrow : start * 10 + (c.toNat - 48) ≤
        Nat.ofDigitChars 10 cs (start * 10 + (c.toNat - 48)) := by
      rw [Nat.ofDigitChars_eq_ofDigitChars_zero]
      exact Nat.le_add_right_of_le (Nat.le_mul_of_pos_left _ (by positivity))
    rw [hbytes, absorb, hvalue, if_neg (by omega), ih (fun c hc => h c (List.mem_cons_of_mem _ hc)) _ hle]

/-- The decimal form of a number begins with a zero only if it is that of zero. -/
theorem toDigits_of_head_zero {n : Nat} {more : List Char} (h : Nat.toDigits 10 n = '0' :: more) :
    more = [] := by
  induction n using Nat.strongRecOn generalizing more with
  | _ n ih =>
    rw [Nat.toDigits_eq_if (by decide)] at h
    split at h
    · exact (List.cons.inj h).2.symm
    · rename_i hten
      cases hfront : Nat.toDigits 10 (n / 10) with
      | nil => exact absurd hfront Nat.toDigits_ne_nil
      | cons c front =>
        rw [hfront, List.cons_append] at h
        obtain ⟨rfl, -⟩ := List.cons.inj h
        obtain rfl := ih (n / 10) (by omega) hfront
        have hzero : n / 10 = 0 := by
          rw [← Nat.ofDigitChars_ten_toDigits (n := n / 10), hfront]
          rfl
        omega

theorem takeWhile_digits {ds rest : Bytes} (h : ∀ b ∈ ds, isDigit b = true) (hrest : Closes rest) :
    (ds ++ rest).takeWhile isDigit = ds ∧ (ds ++ rest).dropWhile isDigit = rest := by
  rw [List.takeWhile_append_of_pos h, List.dropWhile_append_of_pos h]
  cases rest with
  | nil => simp
  | cons b more =>
    have hb := (hrest.not_numeric b rfl).1
    simp [hb]

/-- The decimal form of a number is read as that number. -/
theorem unsigned_toDigits {n : Nat} (hn : n ≤ maxNatural) (negative : Bool) {rest : Bytes}
    (hrest : Closes rest) :
    unsigned negative (bytesOf (Nat.toDigits 10 n) ++ rest) = whole negative n [] rest := by
  have hdigits : ∀ c ∈ Nat.toDigits 10 n, c.isDigit = true := fun c hc =>
    Nat.isDigit_of_mem_toDigits (by decide) (by decide) hc
  have hvalue : Nat.ofDigitChars 10 (Nat.toDigits 10 n) 0 = n := Nat.ofDigitChars_ten_toDigits
  have habsorb := absorb_digits hdigits 0 (hvalue.trans_le hn)
  rw [hvalue] at habsorb
  obtain ⟨htake, hdrop⟩ := takeWhile_digits (isDigit_of_mem_bytesOf hdigits) hrest
  cases hform : Nat.toDigits 10 n with
  | nil => exact absurd hform Nat.toDigits_ne_nil
  | cons c cs =>
    obtain ⟨hbytes, hdigit, hvalue⟩ := bytesOf_digits_cons (hdigits c (hform ▸ List.mem_cons_self)) cs
    have hzero : ¬ (UInt8.ofNat c.toNat = 48 ∧ (bytesOf cs ++ rest).head?.any isDigit = true) := by
      rintro ⟨hc, hmore⟩
      -- a leading zero is the only digit, and behind it stands none
      have hchar : c = '0' := by
        rw [← Char.ofNat_toNat c, ← hvalue, hc]
        rfl
      obtain rfl := toDigits_of_head_zero (hchar ▸ hform)
      obtain ⟨b, hb, hdigit⟩ := (Option.any_eq_true _ _).1 hmore
      rw [(hrest.not_numeric b hb).1] at hdigit
      cases hdigit
    rw [hform, hbytes] at habsorb htake hdrop
    rw [hbytes]
    simp only [List.cons_append] at htake hdrop ⊢
    rw [unsigned, htake, hdrop, habsorb, if_neg (by simp [hdigit]), if_neg hzero]
    dsimp only
    split
    · exact absurd rfl (hrest.not_numeric 46 rfl).2.1
    · exact absurd rfl (hrest.not_numeric 101 rfl).2.2.1
    · exact absurd rfl (hrest.not_numeric 69 rfl).2.2.2
    · rfl

/-- Integers that 64 bits hold, with or without a sign. -/
def Fits (n : Int) : Prop := -(2 ^ 63) ≤ n ∧ n ≤ maxNatural

end FolderSync.Json
