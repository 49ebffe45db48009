import FolderSync.Proofs.Directory.Progress
import Mathlib.Data.List.Perm.Subperm

/-!
# Staging names

The staging names of an artifact differ in their tokens and in nothing that matters to a path
(`obstacle?_stagingName`).  There are `62 ^ 6` tokens, and the candidates of a draw pass over every
name that a disk could hold: if any staging name is free, one of the candidates is
(`Draw.exists_free`).
-/

namespace FolderSync

/-! ### Tokens and numbers -/

/-- The number of tokens: each of their six characters is one of sixty-two. -/
def tokenCount : Nat := 62 * 62 * 62 * 62 * 62 * 62

theorem toNat_lt_of_isAlphanum {c : Char} (h : c.isAlphanum = true) : c.toNat < 123 := by
  have hbelow : ∀ last : Char, last.toNat < 123 → c.val ≤ last.val → c.toNat < 123 :=
    fun last hlast hle => Nat.lt_of_le_of_lt (UInt32.le_iff_toNat_le.1 hle) hlast
  have hclass : (c.isUpper || c.isLower || c.isDigit) = true := h
  rw [Bool.or_eq_true, Bool.or_eq_true] at hclass
  rcases hclass with (hupper | hlower) | hdigit
  · exact hbelow 'Z' (by decide) (of_decide_eq_true hupper).2
  · exact hbelow 'z' (by decide) (of_decide_eq_true ((Bool.and_eq_true _ _).mp hlower).2)
  · exact hbelow '9' (by decide) (of_decide_eq_true ((Bool.and_eq_true _ _).mp hdigit).2)

theorem exists_tokenDigit {c : Char} (h : c.isAlphanum = true) : ∃ k < 62, tokenDigit k = c := by
  have all : ∀ m : Fin 123, (Char.ofNat m).isAlphanum = true → ∃ k : Fin 62, tokenDigit k = Char.ofNat m := by
    decide +kernel
  obtain ⟨k, hk⟩ := all ⟨c.toNat, toNat_lt_of_isAlphanum h⟩ (by rwa [Char.ofNat_toNat])
  exact ⟨k, k.isLt, by rw [hk, Char.ofNat_toNat]⟩

theorem mod_eq_of_tokenDigit {k l : Nat} (h : tokenDigit k = tokenDigit l) : k % 62 = l % 62 := by
  have all : ∀ k l : Fin 62, tokenDigit k = tokenDigit l → k = l := by decide +kernel
  have hmod : ∀ n, tokenDigit (n % 62) = tokenDigit n := fun n => by
    simp only [tokenDigit, Nat.mod_mod]
  have heq := all ⟨k % 62, Nat.mod_lt _ (by decide)⟩ ⟨l % 62, Nat.mod_lt _ (by decide)⟩
    (by simpa only [hmod] using h)
  exact Fin.mk.inj heq

theorem tokenDigit_congr {k l : Nat} (h : k % 62 = l % 62) : tokenDigit k = tokenDigit l := by
  simp only [tokenDigit, h]

namespace Token

@[ext] theorem ext {t u : Token} (h : t.chars = u.chars) : t = u := by
  cases t
  cases u
  simpa using h

theorem chars_ofNat (n : Nat) : (ofNat n).chars =
    [tokenDigit (n / (62 * 62 * 62 * 62 * 62)), tokenDigit (n / (62 * 62 * 62 * 62)),
      tokenDigit (n / (62 * 62 * 62)), tokenDigit (n / (62 * 62)), tokenDigit (n / 62),
      tokenDigit (n / 1)] := rfl

/-- Every token spells a number. -/
theorem exists_ofNat (t : Token) : ∃ n < tokenCount, ofNat n = t := by
  obtain ⟨chars, hlength, halnum⟩ := t
  match chars, hlength with
  | [a, b, c, d, e, f], _ =>
    simp only [List.mem_cons, List.not_mem_nil, or_false, forall_eq_or_imp, forall_eq] at halnum
    obtain ⟨ha, hb, hc, hd, he, hf⟩ := halnum
    obtain ⟨a, ha, rfl⟩ := exists_tokenDigit ha
    obtain ⟨b, hb, rfl⟩ := exists_tokenDigit hb
    obtain ⟨c, hc, rfl⟩ := exists_tokenDigit hc
    obtain ⟨d, hd, rfl⟩ := exists_tokenDigit hd
    obtain ⟨e, he, rfl⟩ := exists_tokenDigit he
    obtain ⟨f, hf, rfl⟩ := exists_tokenDigit hf
    refine ⟨((((a * 62 + b) * 62 + c) * 62 + d) * 62 + e) * 62 + f, ?_, ext ?_⟩
    · simp only [tokenCount]
      omega
    · rw [chars_ofNat]
      simp only [List.cons.injEq, and_true]
      refine ⟨?_, ?_, ?_, ?_, ?_, ?_⟩ <;> exact tokenDigit_congr (by omega)

/-- Up to the number of tokens, no token spells two numbers. -/
theorem ofNat_inj {n m : Nat} (hn : n < tokenCount) (hm : m < tokenCount) (h : ofNat n = ofNat m) :
    n = m := by
  have hchars := congrArg Token.chars h
  rw [chars_ofNat, chars_ofNat] at hchars
  simp only [List.cons.injEq, and_true] at hchars
  obtain ⟨h5, h4, h3, h2, h1, h0⟩ := hchars
  have h5 := mod_eq_of_tokenDigit h5
  have h4 := mod_eq_of_tokenDigit h4
  have h3 := mod_eq_of_tokenDigit h3
  have h2 := mod_eq_of_tokenDigit h2
  have h1 := mod_eq_of_tokenDigit h1
  have h0 := mod_eq_of_tokenDigit h0
  simp only [tokenCount] at hn hm
  omega

end Token

/-! ### Staging names and paths -/

theorem stagingName_injective {name : String} {t u : Token} (h : stagingName name t = stagingName name u) :
    t = u := by
  have hlist := congrArg String.toList h
  rw [toList_stagingName, toList_stagingName] at hlist
  have hchars : t.chars ++ ".part".toList = u.chars ++ ".part".toList := by
    simpa using hlist
  exact Token.ext (List.append_cancel_right hchars)

theorem length_utf8EncodeChar_of_isAlphanum {c : Char} (h : c.isAlphanum = true) :
    (String.utf8EncodeChar c).length = 1 := by
  obtain ⟨k, hk, rfl⟩ := exists_tokenDigit h
  have all : ∀ k : Fin 62, (String.utf8EncodeChar (tokenDigit k)).length = 1 := by decide +kernel
  exact all ⟨k, hk⟩

theorem length_bytesOf_token (t : Token) : (bytesOf t.chars).length = 6 := by
  have hone : ∀ c ∈ t.chars, (String.utf8EncodeChar c).length = 1 := fun c hc =>
    length_utf8EncodeChar_of_isAlphanum (t.isAlphanum_chars c hc)
  rw [bytesOf, List.length_flatMap, List.map_congr_left hone]
  simp [t.length_chars]

/-- The front of the artifact's name that its staging names keep. -/
def stagingStem (name : String) : String := String.ofList (name.toList.take stemLength)

/-- Around the stem a staging name has thirteen bytes. -/
theorem length_stagingName_eq (name : String) (t : Token) :
    (utf8 (stagingName name t)).length = (utf8 (stagingStem name)).length + 13 := by
  have hdot : (String.utf8EncodeChar '.').length = 1 := by decide
  have hpart : (bytesOf ".part".toList).length = 5 := by decide +kernel
  rw [utf8_eq_bytesOf, toList_stagingName, stagingStem, utf8_ofList]
  simp only [List.cons_append, List.append_assoc, bytesOf_cons, bytesOf_append, List.length_append,
    hdot, hpart, length_bytesOf_token]
  omega

/-- All staging names of an artifact are equally long. -/
theorem length_stagingName (name : String) (t u : Token) :
    (utf8 (stagingName name t)).length = (utf8 (stagingName name u)).length := by
  rw [length_stagingName_eq, length_stagingName_eq]

namespace Path

/-- To the system one staging name is as good as another. -/
theorem obstacle?_stagingName (p : Path) {name : String} (h : nameFault? name = none) (t u : Token) :
    p.obstacle? (stagingName name t) = p.obstacle? (stagingName name u) :=
  p.obstacle?_congr (proper_stagingName h t) (proper_stagingName h u) (length_stagingName name t u)

end Path

/-! ### Free names -/

/-- **If any staging name is free, one of the candidates is.** -/
theorem Draw.exists_free (draw : Draw) {d : Disk} (dir : Location) (name : String) {t : Token}
    (h : d.find? (dir.entry (stagingName name t)) = none) :
    ∃ u ∈ draw.candidates d, d.find? (dir.entry (stagingName name u)) = none := by
  by_cases hmany : tokenCount ≤ d.entries.length + 1
  · -- there are candidates enough for all tokens
    obtain ⟨n, hn, rfl⟩ := t.exists_ofNat
    refine ⟨_, List.mem_cons_of_mem _ (List.mem_map_of_mem (List.mem_range.2 ?_)), h⟩
    omega
  · -- there are more candidates than entries
    by_contra hall
    push Not at hall
    have htaken : (List.range (d.entries.length + 1)).map
        (fun n => dir.entry (stagingName name (Token.ofNat n))) ⊆ d.entries.map Prod.fst := by
      intro loc hloc
      obtain ⟨n, hn, rfl⟩ := List.mem_map.1 hloc
      have hfound := hall _ (List.mem_cons_of_mem _ (List.mem_map_of_mem hn))
      obtain ⟨p, hp, hkey⟩ := (Disk.find?_ne_none_iff (entry_ne_nil _ _)).1 hfound
      exact List.mem_map.2 ⟨p, hp, hkey⟩
    have hnodup : ((List.range (d.entries.length + 1)).map
        (fun n => dir.entry (stagingName name (Token.ofNat n)))).Nodup := by
      refine List.nodup_range.map_on fun n hn m hm heq => ?_
      rw [List.mem_range] at hn hm
      exact Token.ofNat_inj (by omega) (by omega) (stagingName_injective (entry_injective heq))
    have hlength := (List.subperm_of_subset hnodup htaken).length_le
    simp only [List.length_map, List.length_range] at hlength
    omega

/-- Then the first candidate that is free is found, -/
theorem Draw.exists_find?_candidates (draw : Draw) {d : Disk} {dir : Location} {name : String}
    (h : ∃ token, d.find? (dir.entry (stagingName name token)) = none) : ∃ token,
      ((draw.candidates d).find? fun token =>
        d.find? (dir.entry (stagingName name token)) = none) = some token := by
  obtain ⟨t, ht⟩ := h
  obtain ⟨u, hu, hfree⟩ := draw.exists_free dir name ht
  exact Option.isSome_iff_exists.1 (List.find?_isSome.2 ⟨u, hu, decide_eq_true hfree⟩)

/-- and else none is. -/
theorem find?_eq_none_of_taken {d : Disk} {dir : Location} {name : String} {tokens : List Token}
    (h : ¬ ∃ token, d.find? (dir.entry (stagingName name token)) = none) :
    (tokens.find? fun token => d.find? (dir.entry (stagingName name token)) = none) = none :=
  List.find?_eq_none.2 fun token _ => by simpa using not_exists.1 h token

end FolderSync
