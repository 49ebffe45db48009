import FolderSync.Proofs.Url.Reading

/-!
# Putting text behind an address

The text of an address may end in slashes, which are taken away before something is put behind it, or
in blanks and control characters, which count once something stands behind them.

* `Spelled`: the characters of a text that count, alone and with more behind it.
* `Extends`: what is read of the text of an address of the web, alone and with more behind it.
-/

namespace FolderSync.Url

variable {scheme : String} {x : Char}

/-! ### The text of an address and what is put behind it -/

/-- The text without the slashes at its end. -/
def withoutSlashes (text : String) : String := String.ofList (text.toList.rdropWhile (· = '/'))

theorem relevant_append {text more : String} (htext : text.toList.dropWhile isEdge ≠ [])
    (hne : more.toList ≠ []) (hmore : ∀ c ∈ more.toList, isEdge c = false) :
    relevant (text ++ more) = (text.toList.dropWhile isEdge).filter counts ++ more.toList := by
  have hlast : ((text.toList.dropWhile isEdge) ++ more.toList).rdropWhile isEdge =
      text.toList.dropWhile isEdge ++ more.toList := by
    rw [List.rdropWhile_eq_self_iff]
    intro hl
    rw [List.getLast_append_of_ne_nil _ hne, hmore _ (List.getLast_mem hne)]
    exact Bool.false_ne_true
  have hfilter : more.toList.filter counts = more.toList :=
    List.filter_eq_self.2 fun c hc => counts_of_isEdge (hmore c hc)
  rw [relevant_eq, String.toList_append, dropWhile_append_of_ne_nil htext, hlast,
    List.filter_append, hfilter]

/-- What is taken from the front of a list does not matter at its end. -/
theorem rtakeWhile_dropWhile {α : Type} {p : α → Bool} {l : List α} (h : l.dropWhile p ≠ []) :
    (l.dropWhile p).rtakeWhile p = l.rtakeWhile p := by
  have hshort : ¬ ((l.dropWhile p).reverse.takeWhile p).length = (l.dropWhile p).reverse.length := by
    intro hlength
    have hall : ∀ y ∈ (l.dropWhile p).reverse, p y = true :=
      List.takeWhile_eq_self_iff.1 ((List.takeWhile_prefix p).eq_of_length hlength)
    have hhead := hall _ (List.mem_reverse.2 (List.head_mem h))
    rw [List.head_dropWhile_not p h] at hhead
    cases hhead
  conv_rhs => rw [← List.takeWhile_append_dropWhile (p := p) (l := l)]
  rw [List.rtakeWhile, List.rtakeWhile, List.reverse_append, List.takeWhile_append, if_neg hshort]

theorem rdropWhile_append {α : Type} {p : α → Bool} (l : List α) {m : List α}
    (hm : ∀ y ∈ m, p y = true) : (l ++ m).rdropWhile p = l.rdropWhile p := by
  rw [List.rdropWhile, List.rdropWhile, List.reverse_append,
    List.dropWhile_append_of_pos fun y hy => hm y (List.mem_reverse.1 hy)]

/-- How the text of an address is spelled: `body`, then either slashes or blanks and control
characters, which are not read.  What is put behind the text without its slashes stands behind the
blanks, which then count. -/
structure Spelled (text : String) (body slashes blanks : List Char) : Prop where
  slash : ∀ c ∈ slashes, c = '/'
  edge : ∀ c ∈ blanks, isEdge c = true
  relevant_eq : relevant text = body ++ slashes
  relevant_append : ∀ more : String, more.toList ≠ [] → (∀ c ∈ more.toList, isEdge c = false) →
    relevant (withoutSlashes text ++ more) = body ++ (blanks ++ more.toList)
  blanks_iff : blanks = [] ↔ ∀ c ∈ text.toList.rtakeWhile isEdge, counts c = false

theorem exists_spelled {text : String}
    (h : (withoutSlashes text).toList.dropWhile isEdge ≠ []) :
    ∃ body slashes blanks, Spelled text body slashes blanks := by
  have hsplit : text = withoutSlashes text ++ String.ofList (text.toList.rtakeWhile (· = '/')) := by
    rw [← String.toList_inj, String.toList_append, withoutSlashes, String.toList_ofList,
      String.toList_ofList, List.rdropWhile_append_rtakeWhile]
  have hslash : ∀ c ∈ text.toList.rtakeWhile (· = '/'), c = '/' := fun c hc => by
    simpa using List.mem_rtakeWhile_imp hc
  generalize text.toList.rtakeWhile (· = '/') = slashes at hsplit hslash
  have hedge : ∀ c ∈ slashes, isEdge c = false := fun c hc => by rw [hslash c hc]; decide
  generalize hfront : withoutSlashes text = front at h hsplit
  by_cases hnil : slashes = []
  · -- blanks and control characters may stand at the end
    subst hnil
    obtain rfl : text = front := by rw [hsplit, String.ofList_nil, String.append_empty]
    have hback := rtakeWhile_dropWhile h
    refine ⟨((text.toList.dropWhile isEdge).rdropWhile isEdge).filter counts, [],
      ((text.toList.dropWhile isEdge).rtakeWhile isEdge).filter counts, ⟨by simp, ?_, ?_, ?_, ?_⟩⟩
    · exact fun c hc => List.mem_rtakeWhile_imp (List.mem_filter.1 hc).1
    · rw [List.append_nil]
      rfl
    · intro more hne hmore
      rw [hfront, relevant_append h hne hmore, ← List.append_assoc, ← List.filter_append,
        List.rdropWhile_append_rtakeWhile]
    · rw [← hback, List.filter_eq_nil_iff]
      simp
  · refine ⟨(front.toList.dropWhile isEdge).filter counts, slashes, [], ⟨hslash, by simp, ?_, ?_, ?_⟩⟩
    · rw [hsplit, relevant_append h (by rwa [String.toList_ofList]) (by rwa [String.toList_ofList]),
        String.toList_ofList]
    · intro more hne hmore
      rw [hfront, relevant_append h hne hmore, List.nil_append]
    · have hend : text.toList.rtakeWhile isEdge = [] := by
        rw [List.rtakeWhile_eq_nil_iff, hsplit, String.toList_append, String.toList_ofList]
        intro hl
        rw [List.getLast_append_of_ne_nil _ hnil, hedge _ (List.getLast_mem hnil)]
        exact Bool.false_ne_true
      rw [hend]
      simp

theorem Spelled.mem_iff {text : String} {body slashes blanks : List Char}
    (h : Spelled text body slashes blanks) (hx : isEdge x = false) (hslash : x ≠ '/') :
    x ∈ body ↔ x ∈ text.toList := by
  rw [← mem_relevant_iff hx, h.relevant_eq, List.mem_append, or_iff_left]
  exact fun hmem => hslash (h.slash x hmem)

/-! ### Addresses of the web -/

/-- What is read of the text of an address of the web: `rest` behind the slashes, then slashes.
What is put behind the text without its slashes stands behind the blanks. -/
structure Extends (text scheme : String) (rest slashes blanks : List Char) : Prop where
  slash : ∀ c ∈ slashes, c = '/'
  edge : ∀ c ∈ blanks, isEdge c = true
  parse_eq : parse text = readBehindSlashes .web scheme (rest ++ slashes)
  parse_append : ∀ more : String, more.toList ≠ [] → (∀ c ∈ more.toList, isEdge c = false) →
    parse (withoutSlashes text ++ more) =
      readBehindSlashes .web scheme (rest ++ (blanks ++ more.toList))
  plain_iff : (∀ c ∈ rest, endsPath c = false) ↔ '?' ∉ text.toList ∧ '#' ∉ text.toList
  blanks_iff : blanks = [] ↔ ∀ c ∈ text.toList.rtakeWhile isEdge, counts c = false

/-- A text with a scheme does not consist of blanks, control characters and slashes. -/
theorem dropWhile_ne_nil_of_scheme? {text : String} {rest : List Char}
    (h : scheme? (relevant text) = some (scheme, rest)) :
    (withoutSlashes text).toList.dropWhile isEdge ≠ [] := by
  intro hnil
  obtain ⟨name, hname, -⟩ := scheme?_eq_some_iff.1 h
  have hcolon : ':' ∈ text.toList := by
    rw [← mem_relevant_iff (by decide), hname]
    simp
  rw [← List.rdropWhile_append_rtakeWhile (p := (· = '/')) (l := text.toList),
    List.mem_append] at hcolon
  rcases hcolon with hcolon | hcolon
  · rw [withoutSlashes, String.toList_ofList, List.dropWhile_eq_nil_iff] at hnil
    exact absurd (hnil ':' hcolon) (by decide)
  · exact absurd (List.mem_rtakeWhile_imp hcolon) (by decide)

/-- **An address of the web goes on behind its text without slashes.** -/
theorem exists_extends {text : String} {u : Url} (h : parse text = .ok u) (hhttp : u.IsHttp) :
    ∃ rest slashes blanks, Extends text u.scheme rest slashes blanks := by
  obtain ⟨scheme, behind, hscheme, hread⟩ : ∃ scheme behind,
      scheme? (relevant text) = some (scheme, behind) ∧ readBehindScheme scheme behind = .ok u := by
    unfold parse at h
    split at h
    · exact ⟨_, _, ‹_›, h⟩
    · cases h
  obtain rfl := scheme_of_readBehindScheme hread
  have hkind := kind_of_isHttp hhttp
  obtain ⟨body, slashes, blanks, hspelled⟩ := exists_spelled (dropWhile_ne_nil_of_scheme? hscheme)
  rw [hspelled.relevant_eq] at hscheme
  obtain ⟨inner, hinner⟩ := scheme?_of_append hspelled.slash hscheme
  obtain rfl : inner ++ slashes = behind := by
    have heq := (scheme?_append hinner slashes).symm.trans hscheme
    exact (Prod.mk.inj (Option.some.inj heq)).2
  have hweb := readBehindScheme_web hkind
  have hne : inner.dropWhile isSlash ≠ [] := by
    intro hnil
    have hall : ∀ c ∈ inner ++ slashes, isSlash c = true := by
      intro c hc
      rcases List.mem_append.1 hc with hc | hc
      · exact List.dropWhile_eq_nil_iff.1 hnil c hc
      · rw [hspelled.slash c hc]
        rfl
    rw [hweb, List.dropWhile_eq_nil_iff.2 hall] at hread
    cases hread
  have hdrop := dropWhile_append_of_ne_nil hne
  refine ⟨inner.dropWhile isSlash, slashes, blanks, hspelled.slash, hspelled.edge, ?_, ?_, ?_,
    hspelled.blanks_iff⟩
  · rw [parse, hspelled.relevant_eq, hscheme]
    dsimp only
    rw [hweb, hdrop]
  · intro more hmore hedge
    rw [parse, hspelled.relevant_append more hmore hedge, scheme?_append hinner]
    dsimp only
    rw [hweb, hdrop]
  · -- what ends a path stands behind the scheme, and no slash at the end is such a character
    have hmem : ∀ c, endsPath c = true → (c ∈ inner.dropWhile isSlash ↔ c ∈ text.toList) := by
      intro c hc
      rcases endsPath_iff.1 hc with rfl | rfl
      · rw [mem_dropWhile (by decide), mem_behind_scheme? hinner (by decide) (by decide),
          hspelled.mem_iff (by decide) (by decide)]
      · rw [mem_dropWhile (by decide), mem_behind_scheme? hinner (by decide) (by decide),
          hspelled.mem_iff (by decide) (by decide)]
    rw [← hmem '?' (by decide), ← hmem '#' (by decide)]
    constructor
    · intro hplain
      exact ⟨fun h => absurd (hplain _ h) (by decide), fun h => absurd (hplain _ h) (by decide)⟩
    · rintro ⟨hquery, hfragment⟩ c hc
      rw [← Bool.not_eq_true, endsPath_iff]
      rintro (rfl | rfl)
      · exact hquery hc
      · exact hfragment hc

end FolderSync.Url
