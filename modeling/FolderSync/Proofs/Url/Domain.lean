import FolderSync.Proofs.Text.Encoding
import FolderSync.Url.Host

/-!
# Blanks in the names of hosts

A blank or a control character passes through everything that is done to a name: percent decoding,
mapping, composing and the ASCII form of a label keep it.  In the ASCII form it is refused
(`Domain.toAscii?_eq_none`), so no host has a name that ends in one (`Host.ofWeb_append_ne_ok`).
-/

namespace FolderSync

variable {x : Char}

/-- What holds of the blank and of every control character before it, taken one by one. -/
theorem of_toNat_le {P : Char → Prop} (h : ∀ n : Fin 33, P (Char.ofNat n)) (hx : x.toNat ≤ 32) :
    P x := by
  have hchar := h ⟨x.toNat, by omega⟩
  rwa [Char.ofNat_toNat] at hchar

/-! ### Composed texts -/

namespace Text

theorem takeApart_of_le (hx : x.toNat ≤ 32) : ∀ depth, takeApart depth x = [x]
  | 0 => rfl
  | depth + 1 => by
    have hpair : pair? x = none := if_pos (show x.toNat < 192 by omega)
    rw [takeApart, hpair]

theorem lt_of_joined? {first second joined : Char} (h : joined? first second = some joined) :
    32 < first.toNat ∧ 32 < second.toNat := by
  unfold joined? at h
  dsimp only at h
  split at h
  · cases h
  · omega

theorem mem_insertMark {mark : Char} {l : List Char} :
    x ∈ insertMark mark l ↔ x = mark ∨ x ∈ l := by
  induction l with
  | nil => simp [insertMark]
  | cons c rest ih =>
    rw [insertMark]
    split
    · rw [List.mem_cons, ih, List.mem_cons, or_left_comm]
    · exact List.mem_cons

theorem mem_ordered {pending text : List Char} :
    x ∈ ordered pending text ↔ x ∈ pending ∨ x ∈ text := by
  induction text generalizing pending with
  | nil => simp [ordered]
  | cons c rest ih =>
    rw [ordered]
    split
    · simp [ih]
    · rw [ih, mem_insertMark, List.mem_cons, or_assoc, or_left_comm]

theorem join_cons (letter : Char) (kept : List Char) (c : Char) (rest : List Char) :
    (∃ joined, joined? letter c = some joined ∧
      join letter kept (c :: rest) = join joined kept rest) ∨
    join letter kept (c :: rest) = letter :: kept ++ join c [] rest ∨
    join letter kept (c :: rest) = join letter (kept ++ [c]) rest := by
  rw [join]
  cases hjoined : joined? letter c with
  | none =>
    right
    simp only [ite_self]
    split_ifs
    · exact .inl rfl
    · exact .inr rfl
  | some joined =>
    split_ifs
    · exact .inr (.inl rfl)
    · exact .inr (.inr rfl)
    · exact .inl ⟨joined, rfl, rfl⟩
    · exact .inl ⟨joined, rfl, rfl⟩

/-- Joining takes letters and marks away, but nothing else. -/
theorem mem_join (hx : x.toNat ≤ 32) {rest : List Char} {letter : Char} {kept : List Char}
    (h : x = letter ∨ x ∈ kept ∨ x ∈ rest) : x ∈ join letter kept rest := by
  induction rest generalizing letter kept with
  | nil => simpa [join] using h
  | cons c rest ih =>
    rw [List.mem_cons] at h
    rcases join_cons letter kept c rest with ⟨joined, hjoined, heq⟩ | heq | heq <;> rw [heq]
    · -- neither of the two that are joined is `x`
      obtain ⟨hletter, hc⟩ := lt_of_joined? hjoined
      rcases h with rfl | hkept | rfl | hrest
      · omega
      · exact ih (.inr (.inl hkept))
      · omega
      · exact ih (.inr (.inr hrest))
    · rw [List.cons_append, List.mem_cons, List.mem_append]
      rcases h with hletter | hkept | hc | hrest
      · exact .inl hletter
      · exact .inr (.inl hkept)
      · exact .inr (.inr (ih (.inl hc)))
      · exact .inr (.inr (ih (.inr (.inr hrest))))
    · apply ih
      rw [List.mem_append, List.mem_singleton]
      tauto

theorem mem_joinAll (hx : x.toNat ≤ 32) {text : List Char} (h : x ∈ text) : x ∈ joinAll text := by
  induction text with
  | nil => cases h
  | cons c rest ih =>
    rw [joinAll]
    rw [List.mem_cons] at h
    split
    · exact mem_join hx (h.imp_right .inr)
    · exact List.mem_cons.2 (h.imp_right ih)

theorem mem_composed (hx : x.toNat ≤ 32) {text : List Char} (h : x ∈ text) :
    x ∈ composed text := by
  apply mem_joinAll hx
  rw [mem_ordered, List.mem_flatMap]
  exact .inr ⟨x, h, by rw [takeApart_of_le hx]; exact List.mem_singleton_self x⟩

end Text

/-! ### ASCII forms -/

namespace Domain

theorem mapChar_of_le (hx : x.toNat ≤ 32) : Text.mapChar x = .kept := by
  have hupper : x.isUpper = false := of_toNat_le (P := fun c => c.isUpper = false) (by decide) hx
  rw [Text.mapChar, if_pos (by omega), hupper]
  rfl

theorem mem_mapped (hx : x.toNat ≤ 32) {name mapped : List Char} (h : mapped? name = some mapped)
    (hmem : x ∈ name) : x ∈ mapped := by
  induction name generalizing mapped with
  | nil => cases hmem
  | cons c rest ih =>
    rw [mapped?] at h
    rcases List.mem_cons.1 hmem with rfl | hmem
    · rw [mapChar_of_le hx] at h
      obtain ⟨tail, -, rfl⟩ := Option.map_eq_some_iff.1 h
      exact List.mem_cons_self
    · split at h
      · obtain ⟨tail, htail, rfl⟩ := Option.map_eq_some_iff.1 h
        exact List.mem_cons_of_mem _ (ih htail hmem)
      · exact ih h hmem
      · obtain ⟨tail, htail, rfl⟩ := Option.map_eq_some_iff.1 h
        exact List.mem_append_right _ (ih htail hmem)
      · cases h

theorem mem_closed (hx : x.toNat ≤ 32) {label : List Char} (h : x ∈ label) : x ∈ closed label := by
  unfold closed
  split
  · exact h
  · apply List.mem_append_right
    unfold Punycode.encode
    simp only [List.append_assoc, List.mem_append, List.mem_filter]
    exact .inl ⟨h, decide_eq_true (by omega)⟩

theorem mem_joinFields {α : Type} {separator y : α} {fields : List (List α)} {f : List α}
    (hf : f ∈ fields) (hy : y ∈ f) : y ∈ joinFields separator fields := by
  induction fields with
  | nil => cases hf
  | cons g more ih =>
    cases more with
    | nil =>
      obtain rfl := List.mem_singleton.1 hf
      exact hy
    | cons e more =>
      rw [joinFields]
      · rcases List.mem_cons.1 hf with rfl | hf
        · exact List.mem_append_left _ hy
        · exact List.mem_append_right _ (List.mem_cons_of_mem _ (ih hf))
      · simp

theorem exists_mem_fieldsBy {α : Type} {p : α → Bool} {y : α} (hy : p y = false) {l : List α}
    (h : y ∈ l) : ∃ f ∈ fieldsBy p l, y ∈ f := by
  induction l with
  | nil => cases h
  | cons z rest ih =>
    rw [fieldsBy]
    rcases List.mem_cons.1 h with rfl | h
    · rw [hy]
      simp only [Bool.false_eq_true, if_false]
      split
      · exact ⟨_, List.mem_cons_self, List.mem_cons_self⟩
      · exact ⟨_, List.mem_cons_self, List.mem_cons_self⟩
    · obtain ⟨f, hf, hyf⟩ := ih h
      split
      · exact ⟨f, List.mem_cons_of_mem _ hf, hyf⟩
      · split
        · rename_i hnil
          rw [hnil] at hf
          cases hf
        · rename_i g more hcons
          rw [hcons] at hf
          rcases List.mem_cons.1 hf with rfl | hf
          · exact ⟨_, List.mem_cons_self, List.mem_cons_of_mem _ hyf⟩
          · exact ⟨f, List.mem_cons_of_mem _ hf, hyf⟩

/-- **A name that holds a blank or a control character has no ASCII form.** -/
theorem toAscii?_eq_none (hx : x.toNat ≤ 32) {name : List Char} (h : x ∈ name) :
    toAscii? name = none := by
  have hdot : decide (x = '.') = false := by
    apply decide_eq_false
    rintro rfl
    exact absurd hx (by decide)
  have hrefused : isRefused x = true := by simp [isRefused, hx]
  unfold toAscii?
  split
  · rfl
  rename_i mapped hmapped
  obtain ⟨label, hlabel, hxlabel⟩ :=
    exists_mem_fieldsBy (p := (· = '.')) hdot (Text.mem_composed hx (mem_mapped hx hmapped h))
  have hascii : x ∈ joinFields '.' ((fieldsBy (· = '.') (Text.composed mapped)).map closed) :=
    mem_joinFields (List.mem_map_of_mem hlabel) (mem_closed hx hxlabel)
  dsimp only
  split
  · rfl
  · rw [if_pos (List.any_eq_true.2 ⟨x, hascii, hrefused⟩)]

end Domain

/-! ### Hosts -/

/-- A byte that is no `%` and no digit stands for itself. -/
theorem Percent.mem_decode {b : UInt8} (hpercent : b ≠ 37) (hdigit : Percent.digit? b = none)
    {bytes : Bytes} (h : b ∈ bytes) : b ∈ Percent.decode bytes := by
  fun_induction Percent.decode bytes with
  | case1 => cases h
  | case2 a c rest low high hlow hhigh ih =>
    have ha : b ≠ a := fun heq => by rw [heq, hhigh] at hdigit; cases hdigit
    have hc : b ≠ c := fun heq => by rw [heq, hlow] at hdigit; cases hdigit
    simp only [List.mem_cons, hpercent, ha, hc, false_or] at h
    exact List.mem_cons_of_mem _ (ih h)
  | case3 a c rest _ ih =>
    exact List.mem_cons_of_mem _ (ih ((List.mem_cons.1 h).resolve_left hpercent))
  | case4 c rest _ ih => exact List.mem_cons.2 ((List.mem_cons.1 h).imp_right ih)

/-- **No host has a name that ends in a blank or a control character.** -/
theorem Host.ofWeb_append_ne_ok (name : List Char) (hx : x.toNat ≤ 32) (host : Host) :
    Host.ofWeb (name ++ [x]) ≠ .ok host := by
  intro h
  unfold Host.ofWeb at h
  split at h
  · -- an address in brackets ends in a bracket
    unfold Host.ofBrackets at h
    rw [List.getLast?_concat, if_neg] at h
    · cases h
    · rintro heq
      cases Option.some.inj heq
      exact absurd hx (by decide)
  · split at h
    · cases h
    rename_i decoded hdecoded
    have hbyte : (UInt8.ofNat x.toNat).toNat = x.toNat := by
      rw [UInt8.toNat_ofNat']
      omega
    have hmem : UInt8.ofNat x.toNat ∈ utf8 decoded := by
      rw [← eq_utf8_of_text? hdecoded, utf8_ofList]
      apply Percent.mem_decode
      · intro heq
        have hpercent : x.toNat = 37 := by rw [← hbyte, heq]; rfl
        omega
      · have hdigit : isHexDigit x = false :=
          of_toNat_le (P := fun c => isHexDigit c = false) (by decide) hx
        rw [Percent.digit?, hbyte, Char.ofNat_toNat, hdigit]
        rfl
      · simp [utf8EncodeChar_of_ascii (c := x) (by omega)]
    rw [mem_utf8_iff (by omega), hbyte, Char.ofNat_toNat] at hmem
    rw [Domain.toAscii?_eq_none hx hmem] at h
    cases h

end FolderSync
