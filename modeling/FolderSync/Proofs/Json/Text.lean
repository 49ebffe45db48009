import FolderSync.Json.Printer
import FolderSync.Json.Reader
import FolderSync.Proofs.Text.Encoding

/-!
# Texts in quotes

A text that is written between quotes is read back, whatever its characters
(`readString_stringChars`): quotes, backslashes and control characters behind a backslash, all others
as they are (`escaped_cases`).
-/

namespace FolderSync.Json

/-! ### Single characters -/

theorem stringBytes_ordinary {bs : Bytes} (h : ∀ b ∈ bs, b ≠ 34 ∧ b ≠ 92 ∧ ¬ b < 32)
    (done tail : Bytes) (steps : Nat) :
    stringBytes done (steps + bs.length) (bs ++ tail) =
      stringBytes (bs.reverse ++ done) steps tail := by
  induction bs generalizing done with
  | nil => rfl
  | cons b rest ih =>
    obtain ⟨hquote, hslash, hcontrol⟩ := h b List.mem_cons_self
    rw [List.length_cons, ← Nat.add_assoc, List.cons_append, stringBytes, if_neg hquote,
      if_neg hslash, if_neg hcontrol, ih fun b hb => h b (List.mem_cons_of_mem _ hb)]
    simp

theorem stringBytes_escape {e bytes done tail : Bytes} {steps : Nat} (h : escape (e ++ tail) = .ok (bytes, tail)) :
    stringBytes done (steps + 1) (92 :: e ++ tail) = stringBytes (bytes.reverse ++ done) steps tail := by
  rw [List.cons_append, stringBytes, if_neg (by decide), if_pos rfl, h]

theorem fourHex?_control : ∀ n : Fin 32,
    fourHex? 48 48 (UInt8.ofNat (Nat.digitChar (n / 16)).toNat)
      (UInt8.ofNat (Nat.digitChar (n % 16)).toNat) = some n.val := by
  decide

/-- The bytes of a control character behind its backslash. -/
def hexEscape (n : Nat) : Bytes :=
  [117, 48, 48, UInt8.ofNat (Nat.digitChar (n / 16)).toNat,
    UInt8.ofNat (Nat.digitChar (n % 16)).toNat]

theorem toNat_digitChar_lt {n : Nat} (h : n < 16) : (Nat.digitChar n).toNat < 128 := by
  have all : ∀ k : Fin 16, (Nat.digitChar k).toNat < 128 := by decide
  exact all ⟨n, h⟩

theorem bytesOf_hexEscape {c : Char} (h : c.toNat < 32) :
    bytesOf ['\\', 'u', '0', '0', Nat.digitChar (c.toNat / 16), Nat.digitChar (c.toNat % 16)] =
      92 :: hexEscape c.toNat := by
  have hhigh := utf8EncodeChar_of_ascii (toNat_digitChar_lt (n := c.toNat / 16) (by omega))
  have hlow := utf8EncodeChar_of_ascii (toNat_digitChar_lt (n := c.toNat % 16) (by omega))
  simp only [bytesOf_cons, bytesOf_nil, hhigh, hlow]
  rfl

theorem escape_hexEscape {c : Char} (h : c.toNat < 32) (tail : Bytes) :
    escape (hexEscape c.toNat ++ tail) = .ok (String.utf8EncodeChar c, tail) := by
  have hlow : isLowSurrogate c.toNat = false := by simp [isLowSurrogate]; omega
  have hhigh : isHighSurrogate c.toNat = false := by simp [isHighSurrogate]; omega
  have hvalue : encodedChar c.toNat = String.utf8EncodeChar c := by
    rw [encodedChar, utf8_ofList, Char.ofNat_toNat]
    exact List.append_nil _
  simp only [hexEscape, List.cons_append, List.nil_append, escape, fourHex?_control ⟨_, h⟩, hlow,
    hhigh, hvalue, Bool.false_eq_true, if_false]

theorem escaped_cases (c : Char) :
    (escaped c = [c] ∧ ∀ b ∈ String.utf8EncodeChar c, b ≠ 34 ∧ b ≠ 92 ∧ ¬ b < 32) ∨
      ∃ e, bytesOf (escaped c) = 92 :: e ∧
        ∀ tail, escape (e ++ tail) = .ok (String.utf8EncodeChar c, tail) := by
  unfold escaped
  split
  · rename_i hc
    rcases hc with rfl | rfl
    · exact .inr ⟨[34], by decide, fun tail => rfl⟩
    · exact .inr ⟨[92], by decide, fun tail => rfl⟩
  · rename_i hc
    obtain ⟨hquote, hslash⟩ := not_or.1 hc
    split
    · rename_i letter hletter
      unfold shortEscape? at hletter
      right
      split_ifs at hletter with h1 h2 h3 h4 h5
      all_goals obtain rfl := Option.some.inj hletter
      · exact ⟨[98], by decide, fun tail => by subst h1; rfl⟩
      · exact ⟨[102], by decide, fun tail => by subst h2; rfl⟩
      · exact ⟨[110], by decide, fun tail => by subst h3; rfl⟩
      · exact ⟨[114], by decide, fun tail => by subst h4; rfl⟩
      · exact ⟨[116], by decide, fun tail => by subst h5; rfl⟩
    · split
      · rename_i hcontrol
        exact .inr ⟨_, bytesOf_hexEscape hcontrol, escape_hexEscape hcontrol⟩
      · rename_i hcontrol
        refine .inl ⟨rfl, fun b hb => ⟨?_, ?_, ?_⟩⟩
        · rintro rfl
          exact hquote ((toNat_eq_iff_eq_ofNat (by decide) c).1
            ((mem_utf8EncodeChar_iff (by decide) c).1 hb))
        · rintro rfl
          exact hslash ((toNat_eq_iff_eq_ofNat (by decide) c).1
            ((mem_utf8EncodeChar_iff (by decide) c).1 hb))
        · intro hlt
          have hb32 : b.toNat < 32 := hlt
          exact hcontrol ((mem_utf8EncodeChar_iff (by omega) c).1 hb ▸ hb32)

/-- One character more is read. -/
theorem stringBytes_escaped (c : Char) (done tail : Bytes) {steps : Nat}
    (h : (bytesOf (escaped c)).length + tail.length ≤ steps) :
    ∃ left, tail.length ≤ left ∧ stringBytes done steps (bytesOf (escaped c) ++ tail) =
      stringBytes ((String.utf8EncodeChar c).reverse ++ done) left tail := by
  rcases escaped_cases c with ⟨hplain, hordinary⟩ | ⟨e, hbytes, hescape⟩
  · have hbytes : bytesOf (escaped c) = String.utf8EncodeChar c := by rw [hplain]; simp
    rw [hbytes] at h ⊢
    obtain ⟨left, rfl⟩ := Nat.exists_eq_add_of_le (Nat.le_of_add_right_le h)
    refine ⟨left, by omega, ?_⟩
    rw [Nat.add_comm, stringBytes_ordinary hordinary]
  · rw [hbytes] at h ⊢
    obtain ⟨left, rfl⟩ : ∃ left, steps = left + 1 := ⟨steps - 1, by simp at h; omega⟩
    refine ⟨left, by simp at h; omega, stringBytes_escape (hescape tail)⟩

theorem stringBytes_text (cs : List Char) (done rest : Bytes) {steps : Nat}
    (h : (bytesOf (cs.flatMap escaped)).length + rest.length < steps) :
    stringBytes done steps (bytesOf (cs.flatMap escaped) ++ 34 :: rest) =
      .ok (done.reverse ++ bytesOf cs, rest) := by
  induction cs generalizing done steps with
  | nil =>
    obtain ⟨left, rfl⟩ : ∃ left, steps = left + 1 := ⟨steps - 1, by omega⟩
    simp [stringBytes]
  | cons c cs ih =>
    rw [List.flatMap_cons, bytesOf_append, List.append_assoc]
    rw [List.flatMap_cons, bytesOf_append, List.length_append] at h
    have hsteps : (bytesOf (escaped c)).length + (bytesOf (cs.flatMap escaped) ++ 34 :: rest).length ≤
        steps := by
      rw [List.length_append, List.length_cons]
      omega
    obtain ⟨left, hleft, hstep⟩ := stringBytes_escaped c done _ hsteps
    rw [hstep, ih]
    · simp
    · simp at hleft
      omega

/-- **A text that is written is read back.** -/
theorem readString_stringChars (s : String) (rest : Bytes) :
    readString (bytesOf (s.toList.flatMap escaped) ++ 34 :: rest) = .ok (s, rest) := by
  have hsteps : (bytesOf (s.toList.flatMap escaped)).length + rest.length <
      (bytesOf (s.toList.flatMap escaped) ++ 34 :: rest).length := by simp
  have hread := stringBytes_text s.toList [] rest hsteps
  rw [readString, hread, List.reverse_nil, List.nil_append, ← utf8_eq_bytesOf]
  dsimp only
  rw [text?_utf8]

end FolderSync.Json
