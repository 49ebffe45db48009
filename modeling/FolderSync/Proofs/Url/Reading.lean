import FolderSync.Proofs.Results
import FolderSync.Proofs.Url.Domain
import FolderSync.Url.Reader
import Mathlib.Data.List.DropRight

/-!
# How addresses are read

What stands behind a text does not change how the text itself is read, as long as it does not belong
to the same part of an address: behind the scheme (`scheme?_append`), the authority
(`readAuthority_append`) and the path (`readBehindSlashes_stop`).  An authority that ends in a blank
or a control character is refused (`readAuthority_concat`).
-/

namespace FolderSync.Url

variable {scheme : String} {x : Char}

theorem cutBefore_append {stops : Char → Bool} {front back : List Char}
    (hfront : ∀ c ∈ front, stops c = false) (hback : ∀ c ∈ back.head?, stops c = true) :
    cutBefore stops (front ++ back) = (front, back) := by
  have hnot : ∀ c ∈ front, (!stops c) = true := fun c hc => by rw [hfront c hc]; rfl
  have htake : back.takeWhile (fun c => !stops c) = [] := by
    cases back with
    | nil => rfl
    | cons c rest => rw [List.takeWhile_cons, hback c rfl]; rfl
  have hdrop : back.dropWhile (fun c => !stops c) = back := by
    cases back with
    | nil => rfl
    | cons c rest => rw [List.dropWhile_cons, hback c rfl]; rfl
  rw [cutBefore, List.takeWhile_append_of_pos hnot, List.dropWhile_append_of_pos hnot, htake, hdrop,
    List.append_nil]

theorem cutBefore_self {stops : Char → Bool} {text : List Char}
    (h : ∀ c ∈ text, stops c = false) : cutBefore stops text = (text, []) := by
  have hnil : ∀ c ∈ ([] : List Char).head?, stops c = true := fun c hc => by cases hc
  have hcut := cutBefore_append h hnil
  rwa [List.append_nil] at hcut

theorem exists_cut (stops : Char → Bool) (text : List Char) :
    ∃ front back, text = front ++ back ∧ (∀ c ∈ front, stops c = false) ∧
      ∀ c ∈ back.head?, stops c = true := by
  refine ⟨text.takeWhile fun c => !stops c, text.dropWhile fun c => !stops c,
    List.takeWhile_append_dropWhile.symm, fun c hc => ?_, fun c hc => ?_⟩
  · simpa using List.mem_takeWhile_imp hc
  · have hnot := List.head?_dropWhile_not (fun c => !stops c) text
    rw [Option.mem_def.1 hc] at hnot
    simpa using hnot

/-! ### The characters that count -/

theorem mem_dropWhile {α : Type} {p : α → Bool} {y : α} (hy : p y = false) {l : List α} :
    y ∈ l.dropWhile p ↔ y ∈ l := by
  constructor
  · exact fun h => (List.dropWhile_suffix p).subset h
  · intro h
    rw [← List.takeWhile_append_dropWhile (p := p) (l := l), List.mem_append] at h
    refine h.resolve_left fun htake => ?_
    rw [List.mem_takeWhile_imp htake] at hy
    cases hy

theorem dropWhile_append_of_ne_nil {α : Type} {p : α → Bool} {l : List α} (h : l.dropWhile p ≠ [])
    (m : List α) : (l ++ m).dropWhile p = l.dropWhile p ++ m := by
  have hempty : (l.dropWhile p).isEmpty = false := by simpa using h
  rw [List.dropWhile_append, hempty]
  rfl

/-- Is the character a blank or a control character? -/
def isEdge (c : Char) : Bool := c.toNat ≤ 32

/-- Does the character count inside an address? -/
def counts (c : Char) : Bool := c ∉ ['\t', '\n', '\r']

theorem relevant_eq (text : String) :
    relevant text = ((text.toList.dropWhile isEdge).rdropWhile isEdge).filter counts := rfl

theorem counts_of_isEdge (hx : isEdge x = false) : counts x = true := by
  refine decide_eq_true fun hmem => ?_
  simp only [List.mem_cons, List.not_mem_nil, or_false] at hmem
  rcases hmem with rfl | rfl | rfl <;> cases hx

theorem mem_relevant_iff {text : String} (hx : isEdge x = false) :
    x ∈ relevant text ↔ x ∈ text.toList := by
  rw [relevant_eq, List.mem_filter, counts_of_isEdge hx, List.rdropWhile, List.mem_reverse,
    mem_dropWhile hx, List.mem_reverse, mem_dropWhile hx, and_iff_left rfl]

/-! ### The scheme -/

/-- May the character stand in a scheme? -/
def isSchemePart (c : Char) : Bool := c.isAlphanum || c ∈ ['+', '-', '.']

theorem scheme?_eq (text : List Char) :
    scheme? text = match text.head?, text.dropWhile isSchemePart with
      | some first, ':' :: rest =>
        if first.isAlpha then
          some (String.ofList ((text.takeWhile isSchemePart).map Char.toLower), rest)
        else none
      | _, _ => none := rfl

theorem scheme?_eq_some_iff {text rest : List Char} :
    scheme? text = some (scheme, rest) ↔ ∃ name, text = name ++ ':' :: rest ∧
      (∀ c ∈ name, isSchemePart c = true) ∧ (∃ first ∈ name.head?, first.isAlpha = true) ∧
      scheme = String.ofList (name.map Char.toLower) := by
  constructor
  · intro h
    rw [scheme?_eq] at h
    split at h
    · rename_i first rest' hfirst hrest
      split at h
      · rename_i halpha
        obtain ⟨hscheme, rfl⟩ := Prod.mk.inj (Option.some.inj h)
        have htext : text = text.takeWhile isSchemePart ++ ':' :: rest' := by
          rw [← hrest]
          exact List.takeWhile_append_dropWhile.symm
        refine ⟨text.takeWhile isSchemePart, htext, fun c hc => List.mem_takeWhile_imp hc, ?_,
          hscheme.symm⟩
        refine ⟨first, ?_, halpha⟩
        have hpart : isSchemePart first = true := by
          rw [isSchemePart, Char.isAlphanum, halpha, Bool.true_or, Bool.true_or]
        obtain ⟨more, rfl⟩ := List.head?_eq_some_iff.1 hfirst
        rw [List.takeWhile_cons, hpart]
        rfl
      · cases h
    · cases h
  · rintro ⟨name, rfl, hpart, ⟨first, hfirst, halpha⟩, rfl⟩
    have hcolon : isSchemePart ':' = false := by decide
    have hdrop : (name ++ ':' :: rest).dropWhile isSchemePart = ':' :: rest := by
      rw [List.dropWhile_append_of_pos hpart, List.dropWhile_cons, hcolon]
      rfl
    have htake : (name ++ ':' :: rest).takeWhile isSchemePart = name := by
      rw [List.takeWhile_append_of_pos hpart, List.takeWhile_cons, hcolon]
      exact List.append_nil _
    have hhead : (name ++ ':' :: rest).head? = some first := by
      rw [List.head?_append, Option.mem_def.1 hfirst]
      rfl
    rw [scheme?_eq, hdrop, htake, hhead]
    exact if_pos halpha

theorem scheme?_append {text rest : List Char} (h : scheme? text = some (scheme, rest))
    (more : List Char) : scheme? (text ++ more) = some (scheme, rest ++ more) := by
  obtain ⟨name, rfl, hname⟩ := scheme?_eq_some_iff.1 h
  exact scheme?_eq_some_iff.2 ⟨name, by simp, hname⟩

theorem mem_behind_scheme? {text rest : List Char} (h : scheme? text = some (scheme, rest))
    (hx : isSchemePart x = false) (hcolon : x ≠ ':') : x ∈ rest ↔ x ∈ text := by
  obtain ⟨name, rfl, hname, -⟩ := scheme?_eq_some_iff.1 h
  rw [List.mem_append, List.mem_cons, or_iff_right, or_iff_right hcolon]
  intro hmem
  rw [hname x hmem] at hx
  cases hx

/-- A scheme does not reach into slashes at the end. -/
theorem scheme?_of_append {text slashes rest : List Char} (hslashes : ∀ c ∈ slashes, c = '/')
    (h : scheme? (text ++ slashes) = some (scheme, rest)) :
    ∃ inner, scheme? text = some (scheme, inner) := by
  obtain ⟨name, heq, hname⟩ := scheme?_eq_some_iff.1 h
  rcases List.append_eq_append_iff.1 heq with ⟨more, rfl, hmore⟩ | ⟨more, rfl, hmore⟩
  · have hcolon : ':' ∈ slashes := by simp [hmore]
    exact absurd (hslashes _ hcolon) (by decide)
  · cases more with
    | nil =>
      rw [List.nil_append] at hmore
      have hcolon : ':' ∈ slashes := by simp [← hmore]
      exact absurd (hslashes _ hcolon) (by decide)
    | cons c inner =>
      obtain rfl : ':' = c := (List.cons.inj hmore).1
      exact ⟨inner, scheme?_eq_some_iff.2 ⟨name, rfl, hname⟩⟩

/-! ### The authority -/

/-- A port is a number, and nothing but a backslash ends it. -/
theorem readPort_ok {text : List Char} (h : '\\' ∉ text) {port : Option Nat} {rest : List Char}
    (hread : readPort scheme text = .ok (port, rest)) :
    (∀ c ∈ text, c.isDigit = true) ∧ rest = [] := by
  have hbackslash : (text.dropWhile fun c => !!c.isDigit).head? ≠ some '\\' := fun hhead =>
    h ((List.dropWhile_suffix _).subset (List.mem_of_mem_head? hhead))
  unfold readPort at hread
  dsimp only [cutBefore] at hread
  split_ifs at hread with hlarge hmore hdefault
  all_goals
    have hnil : (text.dropWhile fun c => !!c.isDigit) = [] := by
      by_contra hne
      exact hmore ⟨hne, hbackslash⟩
    obtain ⟨-, rfl⟩ := Prod.mk.inj (Except.ok.inj hread)
    exact ⟨by simpa using hnil, hnil⟩

theorem getElem?_hostLength {text : List Char} {bracketed : Bool}
    (h : hostLength bracketed text < text.length) :
    text[hostLength bracketed text]? = some ':' := by
  induction text generalizing bracketed with
  | nil => cases h
  | cons c rest ih =>
    rw [hostLength] at h ⊢
    split at h
    · rename_i hc
      rw [if_pos hc, List.getElem?_cons_zero, hc.1]
    · rename_i hc
      rw [if_neg hc, Nat.add_comm, List.getElem?_cons_succ]
      exact ih (by rw [List.length_cons] at h; omega)

/-- A host and a port are read to the end. -/
theorem readHost_ok {text : List Char} (h : '\\' ∉ text) {host : Host} {port : Option Nat}
    {rest : List Char} (hread : readHost .web scheme text = .ok (host, port, rest)) :
    Host.ofWeb (text.take (hostLength false text)) = .ok host ∧
      (∀ c ∈ text.drop (hostLength false text + 1), c.isDigit = true) ∧ rest = [] := by
  have hdrop : text.drop (hostLength false text + 1) = (text.drop (hostLength false text)).tail :=
    List.tail_drop.symm
  unfold readHost at hread
  dsimp only at hread
  split at hread
  · cases hread
  obtain ⟨found, hhost, hread⟩ := bind_eq_ok_iff.1 hread
  rw [hdrop]
  cases hrest : text.drop (hostLength false text) with
  | nil =>
    rw [hrest] at hread
    cases hread
    exact ⟨hhost, by simp, rfl⟩
  | cons c digits =>
    rw [hrest] at hread
    dsimp only at hread
    split at hread
    · cases hread
    obtain ⟨⟨number, after⟩, hport, hread⟩ := bind_eq_ok_iff.1 hread
    have hdigits : '\\' ∉ digits := fun hmem =>
      h (List.mem_of_mem_drop (by rw [hrest]; exact List.mem_cons_of_mem _ hmem))
    cases hread
    exact ⟨hhost, readPort_ok hdigits hport⟩

/-- No host and no port ends in a blank or a control character. -/
theorem readHost_concat (hx : isEdge x = true) {text : List Char} (h : '\\' ∉ text)
    (reading : Host × Option Nat × List Char) :
    readHost .web scheme (text ++ [x]) ≠ .ok reading := by
  obtain ⟨host, port, rest⟩ := reading
  intro hread
  have hle : x.toNat ≤ 32 := of_decide_eq_true hx
  have hbackslash : '\\' ∉ text ++ [x] := by
    rw [List.mem_append, List.mem_singleton]
    rintro (hmem | rfl)
    · exact h hmem
    · cases hx
  obtain ⟨hhost, hdigits, -⟩ := readHost_ok hbackslash hread
  set length := hostLength false (text ++ [x]) with hlength
  rcases Nat.lt_trichotomy length text.length with hlt | heq | hlt
  · -- the port ends in `x`
    have hdigit := hdigits x (by
      rw [List.drop_append_of_le_length (by omega)]
      exact List.mem_append_right _ (List.mem_singleton_self x))
    rw [of_toNat_le (P := fun c => c.isDigit = false) (by decide) hle] at hdigit
    cases hdigit
  · -- the host ends in front of `x`, which is no colon
    have hcolon : (text ++ [x])[length]? = some ':' :=
      getElem?_hostLength (by rw [← hlength, heq, List.length_append]; simp)
    rw [heq, List.getElem?_concat_length] at hcolon
    cases hcolon
    cases hx
  · rw [List.take_of_length_le (by rw [List.length_append, List.length_singleton]; omega)] at hhost
    exact Host.ofWeb_append_ne_ok text hle host hhost

theorem not_mem_of_forall {front : List Char} (h : ∀ c ∈ front, endsAuthority .web c = false)
    (hx : endsAuthority .web x = true) : x ∉ front := fun hmem => by
  rw [h x hmem] at hx
  cases hx

theorem host_of_cutAtUser? {text user host : List Char} (h : cutAtUser? text = some (user, host)) :
    host = text.rtakeWhile (· ≠ '@') := by
  unfold cutAtUser? at h
  split at h
  · exact (Prod.mk.inj (Option.some.inj h)).2.symm
  · cases h

/-- **The authority is read in front of what follows it.** -/
theorem readAuthority_append {front back : List Char}
    (hfront : ∀ c ∈ front, endsAuthority .web c = false)
    (hback : ∀ c ∈ back.head?, endsAuthority .web c = true) :
    readAuthority .web scheme (front ++ back) =
      (readAuthority .web scheme front).map fun reading => (reading.1, back) := by
  have hcut := cutBefore_append hfront hback
  have hcut' := cutBefore_self hfront
  have hbackslash : '\\' ∉ front := not_mem_of_forall hfront rfl
  unfold readAuthority
  rw [hcut, hcut']
  dsimp only
  cases huser : cutAtUser? front with
  | none =>
    dsimp only
    cases hread : readHost .web scheme front with
    | error fault => rfl
    | ok reading =>
      obtain ⟨host, port, rest⟩ := reading
      obtain rfl := (readHost_ok hbackslash hread).2.2
      rfl
  | some parts =>
    obtain ⟨user, host⟩ := parts
    have hhost : '\\' ∉ host := fun hmem => hbackslash (by
      rw [host_of_cutAtUser? huser] at hmem
      exact (List.rtakeWhile_suffix _ _).subset hmem)
    dsimp only
    by_cases hempty : host = []
    · -- without a host both are read in vain
      subst hempty
      have hread : readHost .web scheme [] = .error .emptyHost := rfl
      rw [hread]
      split_ifs <;> rfl
    · rw [if_neg (fun h => hempty h.2.1), if_neg (fun h => hempty h.2.1)]
      cases hread : readHost .web scheme host with
      | error fault => rfl
      | ok reading =>
        obtain ⟨found, port, rest⟩ := reading
        obtain rfl := (readHost_ok hhost hread).2.2
        change (if _ then _ else _) = Except.map _ (if _ then _ else _)
        split_ifs <;> rfl

theorem endsAuthority_of_isEdge (hx : isEdge x = true) : endsAuthority .web x = false :=
  of_toNat_le (P := fun c => endsAuthority .web c = false) (by decide) (of_decide_eq_true hx)

/-- No authority ends in a blank or a control character. -/
theorem readAuthority_concat (hx : isEdge x = true) {front : List Char}
    (hfront : ∀ c ∈ front, endsAuthority .web c = false) (reading : Authority × List Char) :
    readAuthority .web scheme (front ++ [x]) ≠ .ok reading := by
  intro hread
  have hfront' : ∀ c ∈ front ++ [x], endsAuthority .web c = false := by
    simpa [or_imp, forall_and, endsAuthority_of_isEdge hx] using hfront
  have hcut := cutBefore_self hfront'
  have hbackslash : '\\' ∉ front := not_mem_of_forall hfront rfl
  unfold readAuthority at hread
  rw [hcut] at hread
  dsimp only at hread
  cases huser : cutAtUser? (front ++ [x]) with
  | none =>
    rw [huser] at hread
    obtain ⟨host, hhost, -⟩ := bind_eq_ok_iff.1 hread
    exact readHost_concat hx hbackslash host hhost
  | some parts =>
    obtain ⟨user, text⟩ := parts
    have htext : text = front.rtakeWhile (· ≠ '@') ++ [x] := by
      rw [host_of_cutAtUser? huser, List.rtakeWhile_concat_pos]
      refine decide_eq_true ?_
      rintro rfl
      cases hx
    rw [huser] at hread
    dsimp only at hread
    split at hread
    · cases hread
    obtain ⟨host, hhost, -⟩ := bind_eq_ok_iff.1 hread
    rw [htext] at hhost
    refine readHost_concat hx (fun hmem => hbackslash ?_) host hhost
    exact (List.rtakeWhile_suffix _ _).subset hmem

/-! ### Behind the slashes -/

theorem readBehindSlashes_append {front back : List Char}
    (hfront : ∀ c ∈ front, endsAuthority .web c = false)
    (hback : ∀ c ∈ back.head?, endsAuthority .web c = true) :
    readBehindSlashes .web scheme (front ++ back) =
      (readAuthority .web scheme front).map fun reading =>
        let (path, rest) := cutBefore endsPath back
        let tail := readTail .web rest
        ⟨scheme, some reading.1, String.ofList (readPathStart .web path), tail.query,
          tail.fragment⟩ := by
  rw [readBehindSlashes, readAuthority_append hfront hback]
  cases readAuthority .web scheme front <;> rfl

theorem endsPath_iff : endsPath x = true ↔ x = '?' ∨ x = '#' := by
  rw [endsPath, Bool.or_eq_true, decide_eq_true_iff, decide_eq_true_iff]

theorem endsPath_of_isEdge (hx : isEdge x = true) : endsPath x = false :=
  of_toNat_le (P := fun c => endsPath c = false) (by decide) (of_decide_eq_true hx)

theorem endsAuthority_of_endsPath (hx : endsPath x = true) : endsAuthority .web x = true := by
  rw [endsAuthority, hx, Bool.or_true, Bool.true_or]

/-- A query and a fragment change nothing else. -/
theorem readBehindSlashes_stop {text : List Char} (htext : ∀ c ∈ text, endsPath c = false)
    (hx : endsPath x = true) (more : List Char) :
    readBehindSlashes .web scheme (text ++ x :: more) =
      (readBehindSlashes .web scheme text).map fun u =>
        { u with query := (readTail .web (x :: more)).query
                 fragment := (readTail .web (x :: more)).fragment } := by
  obtain ⟨front, back, rfl, hfront, hback⟩ := exists_cut (endsAuthority .web) text
  have hends : ∀ c ∈ (back ++ x :: more).head?, endsAuthority .web c = true := by
    cases back with
    | nil =>
      rintro c ⟨⟩
      exact endsAuthority_of_endsPath hx
    | cons c rest => exact hback
  have hplain : ∀ c ∈ back, endsPath c = false := fun c hc =>
    htext c (List.mem_append_right _ hc)
  have hcut : cutBefore endsPath (back ++ x :: more) = (back, x :: more) :=
    cutBefore_append hplain (by rintro c ⟨⟩; exact hx)
  have hcut' := cutBefore_self hplain
  rw [List.append_assoc, readBehindSlashes_append hfront hends,
    readBehindSlashes_append hfront hback, hcut, hcut']
  cases readAuthority .web scheme front <;> rfl

/-- Is the character a slash in an address of the web? -/
def isSlash (c : Char) : Bool := c = '/' || (SchemeKind.web.isSpecial && c = '\\')

theorem isSlash_of_endsAuthority (hx : endsAuthority .web x = true) (hplain : endsPath x = false) :
    isSlash x = true := by
  rwa [endsAuthority, hplain, Bool.or_false] at hx

theorem endsAuthority_of_isSlash (hx : isSlash x = true) : endsAuthority .web x = true := by
  rw [isSlash, Bool.or_eq_true] at hx
  rw [endsAuthority, Bool.or_eq_true, Bool.or_eq_true]
  exact hx.imp_left .inl

theorem readBehindScheme_web (h : SchemeKind.of scheme = .web) (text : List Char) :
    readBehindScheme scheme text =
      readBehindSlashes .web scheme (text.dropWhile isSlash) := by
  unfold readBehindScheme
  rw [h]
  rfl

/-- Without a query and a fragment the path is all that follows the authority. -/
theorem readBehindSlashes_plain {front path : List Char}
    (hfront : ∀ c ∈ front, endsAuthority .web c = false)
    (hback : ∀ c ∈ path.head?, endsAuthority .web c = true)
    (hplain : ∀ c ∈ path, endsPath c = false) :
    readBehindSlashes .web scheme (front ++ path) =
      (readAuthority .web scheme front).map fun reading =>
        ⟨scheme, some reading.1, String.ofList (readPathStart .web path), none, none⟩ := by
  have hcut := cutBefore_self hplain
  rw [readBehindSlashes_append hfront hback, hcut]
  rfl

/-! ### The scheme that is read -/

theorem scheme_of_readBehindSlashes {kind : SchemeKind} {text : List Char} {u : Url}
    (h : readBehindSlashes kind scheme text = .ok u) : u.scheme = scheme := by
  obtain ⟨reading, -, h⟩ := bind_eq_ok_iff.1 h
  cases h
  rfl

theorem scheme_of_readLocal {text : List Char} {u : Url} (h : readLocal text = .ok u) :
    u.scheme = "file" := by
  unfold readLocal at h
  dsimp only at h
  split at h
  · split at h
    · split at h
      · cases h
        rfl
      · split at h
        · cases h
          rfl
        · split at h
          · cases h
          · split at h <;> cases h <;> rfl
    · cases h
      rfl
  · cases h
    rfl
  · cases h
    rfl

theorem scheme_of_readBehindScheme {text : List Char} {u : Url}
    (h : readBehindScheme scheme text = .ok u) : u.scheme = scheme := by
  unfold readBehindScheme at h
  cases hkind : SchemeKind.of scheme with
  | file =>
    rw [hkind] at h
    have hscheme : scheme = "file" := by
      unfold SchemeKind.of at hkind
      split_ifs at hkind with hfile
      exact hfile
    rw [hscheme]
    exact scheme_of_readLocal h
  | web =>
    rw [hkind] at h
    exact scheme_of_readBehindSlashes h
  | other =>
    rw [hkind] at h
    dsimp only at h
    split at h
    · exact scheme_of_readBehindSlashes h
    · cases h
      rfl

theorem kind_of_isHttp {u : Url} (h : u.IsHttp) : SchemeKind.of u.scheme = .web := by
  rcases h with h | h <;> rw [h] <;> decide

end FolderSync.Url
