import FolderSync.Proofs.Url.Reading

/-!
# How paths are read

The steps of a path are taken one after the other: `takeOn` says which steps are there when more
follow, and reading a longer path goes on from them (`takeSteps_append`).  A path that is read
consists of the steps that are taken and slashes behind them (`exists_readPathStart_eq`).

* `taken`: the steps that are taken from a path when more follow.
-/

namespace FolderSync.Url

variable {x : Char}

/-! ### Steps -/

/-- The steps after one more that is not the last. -/
def takeStep (kind : SchemeKind) (done : List (List Char)) (raw : List Char) : List (List Char) :=
  let step := Percent.encode Percent.inPathSet raw
  if isUp step then stepUp done
  else if isStay step then done
  else done ++ [if kind = .file ∧ done = [] ∧ isDrive step then step.take 1 ++ [':'] else step]

/-- The steps after some more of which none is the last. -/
def takeOn (kind : SchemeKind) (done : List (List Char)) (raws : List (List Char)) :
    List (List Char) := raws.foldl (takeStep kind) done

theorem takeSteps_cons {kind : SchemeKind} {done : List (List Char)} {raw : List Char}
    {more : List (List Char)} (hmore : more ≠ []) :
    takeSteps kind done (raw :: more) = takeSteps kind (takeStep kind done raw) more := by
  rw [takeSteps, takeStep]
  dsimp only
  split_ifs <;> rfl

/-- The last step is taken as the others are, but that a dot step leaves an empty one behind. -/
theorem takeSteps_singleton (kind : SchemeKind) (done : List (List Char)) (raw : List Char) :
    takeSteps kind done [raw] = takeStep kind done raw ∨
      takeSteps kind done [raw] = takeStep kind done raw ++ [[]] := by
  simp only [takeSteps, takeStep, ↓reduceIte]
  by_cases hup : isUp (Percent.encode Percent.inPathSet raw) = true
  · rw [if_pos hup, if_pos hup]
    exact .inr rfl
  rw [if_neg hup, if_neg hup]
  by_cases hstay : isStay (Percent.encode Percent.inPathSet raw) = true
  · rw [if_pos hstay, if_pos hstay]
    exact .inr rfl
  · rw [if_neg hstay, if_neg hstay]
    exact .inl rfl

/-- A step that is no dot step and is written as it is ends a path as it does not end it. -/
theorem takeSteps_plain {raw : List Char} (hraw : Percent.encode Percent.inPathSet raw = raw)
    (hup : isUp raw = false) (hstay : isStay raw = false) (done more : List (List Char)) :
    takeSteps .web done (raw :: more) = takeSteps .web (done ++ [raw]) more := by
  rw [takeSteps, hraw]
  simp only [hup, hstay, Bool.false_eq_true, if_false]
  rw [if_neg (by simp)]

theorem takeSteps_append {kind : SchemeKind} (raws : List (List Char)) {more : List (List Char)}
    (hmore : more ≠ []) (done : List (List Char)) :
    takeSteps kind done (raws ++ more) = takeSteps kind (takeOn kind done raws) more := by
  induction raws generalizing done with
  | nil => rfl
  | cons raw raws ih =>
    rw [List.cons_append, takeSteps_cons (by simp [hmore]), ih]
    rfl

theorem takeSteps_eq (kind : SchemeKind) (done : List (List Char)) {raws : List (List Char)}
    (h : raws ≠ []) :
    takeSteps kind done raws = takeOn kind done raws ∨
      takeSteps kind done raws = takeOn kind done raws ++ [[]] := by
  obtain ⟨init, last, rfl⟩ := (List.eq_nil_or_concat' raws).resolve_left h
  rw [takeSteps_append _ (by simp), takeOn, takeOn, List.foldl_append]
  exact takeSteps_singleton ..

/-! ### Paths -/

/-- The steps that are taken from a path when more follow. -/
def taken : List Char → List (List Char)
  | [] => []
  | _ :: path => takeOn .web [] (fieldsBy isSlash path)

theorem pathOf_append (steps more : List (List Char)) :
    pathOf (steps ++ more) = pathOf steps ++ pathOf more := List.flatMap_append ..

theorem readPathStart_cons {c : Char} (hc : isSlash c = true) (path : List Char) :
    readPathStart .web (c :: path) = pathOf (takeSteps .web [] (fieldsBy isSlash path)) := by
  have hslash : c = '/' ∨ (SchemeKind.web.isSpecial = true ∧ c = '\\') := by
    simpa [isSlash] using hc
  rw [readPathStart, if_pos hslash]
  rfl

/-- **A longer path goes on from the steps that are taken.** -/
theorem readPathStart_append {path : List Char} (hpath : ∀ c ∈ path.head?, isSlash c = true)
    (more : List Char) :
    readPathStart .web (path ++ '/' :: more) =
      pathOf (takeSteps .web (taken path) (fieldsBy isSlash more)) := by
  cases path with
  | nil => exact readPathStart_cons rfl more
  | cons c rest =>
    rw [List.cons_append, readPathStart_cons (hpath c rfl), fieldsBy_append_cons rfl,
      takeSteps_append _ (fieldsBy_ne_nil _ _)]
    rfl

theorem takeSteps_slashes (done : List (List Char)) {slashes : List Char}
    (h : ∀ c ∈ slashes, c = '/') :
    pathOf (takeSteps .web done (fieldsBy isSlash slashes)) = pathOf done ++ '/' :: slashes := by
  induction slashes generalizing done with
  | nil =>
    change pathOf (done ++ [[]]) = _
    exact pathOf_append done [[]]
  | cons c rest ih =>
    obtain rfl := h c List.mem_cons_self
    rw [fieldsBy, if_pos (show isSlash '/' = true from rfl), takeSteps_cons (fieldsBy_ne_nil _ _)]
    change pathOf (takeSteps .web (done ++ [[]]) _) = _
    rw [ih _ fun y hy => h y (List.mem_cons_of_mem _ hy), pathOf_append]
    simp [pathOf]

/-- A path consists of the steps that are taken from it, and of slashes. -/
theorem exists_readPathStart_eq {path slashes : List Char}
    (hpath : ∀ c ∈ path.head?, isSlash c = true) (hslashes : ∀ c ∈ slashes, c = '/') :
    ∃ more, (∀ c ∈ more, c = '/') ∧
      readPathStart .web (path ++ slashes) = pathOf (taken path) ++ more := by
  cases slashes with
  | cons c rest =>
    obtain rfl := hslashes c List.mem_cons_self
    have hrest : ∀ c ∈ rest, c = '/' := fun c hc => hslashes c (List.mem_cons_of_mem _ hc)
    exact ⟨'/' :: rest, hslashes, by rw [readPathStart_append hpath, takeSteps_slashes _ hrest]⟩
  | nil =>
    rw [List.append_nil]
    cases path with
    | nil => exact ⟨['/'], by simp, rfl⟩
    | cons c rest =>
      rw [readPathStart_cons (hpath c rfl)]
      rcases takeSteps_eq .web [] (fieldsBy_ne_nil isSlash rest) with heq | heq
      · exact ⟨[], by simp, by rw [heq, List.append_nil]; rfl⟩
      · exact ⟨['/'], by simp, by rw [heq, pathOf_append]; rfl⟩

/-! ### Blanks at the end of a path -/

/-- A blank or a control character is written in percent form, and never as a dot. -/
theorem encodeChar_edge (hx : isEdge x = true) :
    ∃ high low, Percent.encodeChar Percent.inPathSet x = ['%', high, low] ∧ low.toLower ≠ '.' ∧
      ¬ (high.toLower = '2' ∧ low.toLower = 'e') := by
  have hle : x.toNat ≤ 32 := of_decide_eq_true hx
  have hset : Percent.inPathSet x = true :=
    of_toNat_le (P := fun c => Percent.inPathSet c = true) (by decide) hle
  have hbytes : utf8 (String.ofList [x]) = [UInt8.ofNat x.toNat] := by
    rw [utf8_ofList, bytesOf_cons, utf8EncodeChar_of_ascii (by omega)]
    rfl
  rw [Percent.encodeChar, if_pos (.inr hset), hbytes]
  exact ⟨(hexDigit (x.toNat / 16)).toUpper, (hexDigit (x.toNat % 16)).toUpper,
    of_toNat_le (P := fun c =>
      let high := (hexDigit (c.toNat / 16)).toUpper
      let low := (hexDigit (c.toNat % 16)).toUpper
      [UInt8.ofNat c.toNat].flatMap Percent.encodeByte = ['%', high, low] ∧ low.toLower ≠ '.' ∧
        ¬ (high.toLower = '2' ∧ low.toLower = 'e')) (by decide) hle⟩

/-- Does the step end in a dot, or in the percent form of one? -/
def endsInDot (step : List Char) : Bool :=
  step.getLast? = some '.' || step.reverse.take 2 = ['e', '2']

/-- A step that ends in a blank or a control character is no dot step. -/
theorem not_dots_of_edge (hx : isEdge x = true) (raw : List Char) :
    isUp (Percent.encode Percent.inPathSet (raw ++ [x])) = false ∧
      isStay (Percent.encode Percent.inPathSet (raw ++ [x])) = false := by
  obtain ⟨high, low, hencode, hdot, hforms⟩ := encodeChar_edge hx
  have hraw : Percent.encode Percent.inPathSet (raw ++ [x]) =
      Percent.encode Percent.inPathSet raw ++ ['%', high, low] := by
    rw [Percent.encode, List.flatMap_append, List.flatMap_singleton, hencode]
    rfl
  rw [hraw, isUp, isStay, List.map_append]
  generalize (Percent.encode Percent.inPathSet raw).map Char.toLower = front
  have hends : endsInDot (front ++ ['%', high, low].map Char.toLower) = false := by
    rw [endsInDot, Bool.or_eq_false_iff, decide_eq_false_iff_not, decide_eq_false_iff_not]
    constructor
    · simpa using hdot
    · simpa [and_comm] using hforms
  constructor
  · refine decide_eq_false fun hmem => ?_
    have hdots : ∀ step ∈ ["..".toList, ".%2e".toList, "%2e.".toList, "%2e%2e".toList],
        endsInDot step = true := by decide
    rw [hdots _ hmem] at hends
    cases hends
  · refine decide_eq_false fun hmem => ?_
    have hdots : ∀ step ∈ [".".toList, "%2e".toList], endsInDot step = true := by decide
    rw [hdots _ hmem] at hends
    cases hends

theorem length_pathOf_stepUp_le (done : List (List Char)) :
    (pathOf (stepUp done)).length ≤ (pathOf done).length := by
  unfold stepUp
  split
  · exact le_rfl
  · rcases List.eq_nil_or_concat' done with rfl | ⟨init, last, rfl⟩
    · exact le_rfl
    · rw [List.dropLast_concat, pathOf_append, List.length_append]
      omega

theorem length_pathOf_takeStep_le (done : List (List Char)) (raw : List Char) :
    (pathOf (takeStep .web done raw)).length ≤
      (pathOf done).length + (Percent.encode Percent.inPathSet raw).length + 1 := by
  unfold takeStep
  dsimp only
  split
  · have := length_pathOf_stepUp_le done
    omega
  · split
    · omega
    · rw [if_neg (by simp), pathOf_append, List.length_append]
      simp [pathOf]
      omega

/-- A separator that does not follow leaves only the last field longer. -/
theorem exists_fieldsBy_append {α : Type} {p : α → Bool} (l : List α) {m : List α}
    (hm : ∀ y ∈ m, p y = false) :
    ∃ init last, fieldsBy p l = init ++ [last] ∧ fieldsBy p (l ++ m) = init ++ [last ++ m] := by
  induction l with
  | nil => exact ⟨[], [], rfl, fieldsBy_of_forall hm⟩
  | cons y rest ih =>
    obtain ⟨init, last, hrest, happend⟩ := ih
    rw [List.cons_append, fieldsBy, fieldsBy, hrest, happend]
    by_cases hy : p y = true
    · exact ⟨[] :: init, last, by rw [if_pos hy]; rfl, by rw [if_pos hy]; rfl⟩
    · rw [if_neg hy, if_neg hy]
      cases init with
      | nil => exact ⟨[], y :: last, rfl, rfl⟩
      | cons f init => exact ⟨(y :: f) :: init, last, rfl, rfl⟩

/-- **A path that ends in a blank or a control character has a longer last step.** -/
theorem length_taken_concat {path blanks : List Char} (hne : path ≠ [])
    (hblanks : ∀ c ∈ blanks, isEdge c = true) (hx : isEdge x = true) :
    (pathOf (taken path)).length < (pathOf (taken (path ++ blanks ++ [x]))).length := by
  obtain ⟨c, rest, rfl⟩ := List.exists_cons_of_ne_nil hne
  have hslash : ∀ y ∈ blanks ++ [x], isSlash y = false := fun y hy => by
    have hedge : isEdge y = true := by
      rcases List.mem_append.1 hy with hy | hy
      · exact hblanks y hy
      · rwa [List.mem_singleton.1 hy]
    exact of_toNat_le (P := fun c => isSlash c = false) (by decide) (of_decide_eq_true hedge)
  obtain ⟨init, last, hrest, happend⟩ := exists_fieldsBy_append rest hslash
  obtain ⟨hup, hstay⟩ := not_dots_of_edge hx (last ++ blanks)
  have hlast : takeStep .web (takeOn .web [] init) (last ++ blanks ++ [x]) =
      takeOn .web [] init ++ [Percent.encode Percent.inPathSet (last ++ blanks ++ [x])] := by
    simp only [takeStep, hup, hstay, Bool.false_eq_true, if_false]
    rw [if_neg (by simp)]
  have hshort := length_pathOf_takeStep_le (takeOn .web [] init) last
  have hlong : (Percent.encode Percent.inPathSet last).length <
      (Percent.encode Percent.inPathSet (last ++ blanks ++ [x])).length := by
    obtain ⟨high, low, hencode, -⟩ := encodeChar_edge hx
    rw [Percent.encode, Percent.encode, List.append_assoc, List.flatMap_append, List.length_append,
      List.flatMap_append, List.flatMap_singleton, hencode, List.length_append]
    simp
  rw [List.append_assoc, List.cons_append, taken, taken, hrest, happend, takeOn, takeOn,
    List.foldl_append, List.foldl_append, List.foldl_cons, List.foldl_nil, List.foldl_cons,
    List.foldl_nil, ← List.append_assoc]
  change (pathOf (takeStep .web (takeOn .web [] init) last)).length <
    (pathOf (takeStep .web (takeOn .web [] init) (last ++ blanks ++ [x]))).length
  rw [hlast, pathOf_append, List.length_append]
  simp only [pathOf, List.flatMap_cons, List.flatMap_nil, List.append_nil, List.length_cons] at *
  omega

end FolderSync.Url
