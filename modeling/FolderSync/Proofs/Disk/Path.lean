import FolderSync.Proofs.Text.Encoding
import FolderSync.Staging

/-!
# The steps of paths

The steps of a path put together are those of its parts (`steps_append`).  A plain name is one step
(`trail_join`), and so is every staging name (`proper_stagingName`).

* `Name.Proper`: a name that can stand in a directory.
* `Trail.names`: the names that a trail goes into.
-/

namespace FolderSync

/-! ### Names and steps -/

/-- A name that can stand in a directory: one step of a path, without NUL. -/
structure Name.Proper (name : Name) : Prop where
  field : Step.ofField? name = some (.into name)
  noSlash : slashByte ∉ name
  noNul : 0 ∉ name

instance (name : Name) : Decidable name.Proper :=
  decidable_of_iff (Step.ofField? name = some (.into name) ∧ slashByte ∉ name ∧ 0 ∉ name)
    ⟨fun h => ⟨h.1, h.2.1, h.2.2⟩, fun h => ⟨h.1, h.2, h.3⟩⟩

theorem ofField?_eq_into_iff {field name : Name} :
    Step.ofField? field = some (.into name) ↔
      field = name ∧ name ≠ [] ∧ name ≠ [dotByte] ∧ name ≠ [dotByte, dotByte] := by
  unfold Step.ofField? dotByte
  split
  · simp only [reduceCtorEq, false_iff]
    rintro ⟨rfl, h, -⟩
    exact h rfl
  · simp only [Option.some.injEq, reduceCtorEq, false_iff]
    rintro ⟨rfl, -, h, -⟩
    exact h rfl
  · simp only [Option.some.injEq, reduceCtorEq, false_iff]
    rintro ⟨rfl, -, -, h⟩
    exact h rfl
  · rename_i h1 h2 h3
    simp only [Option.some.injEq, Step.into.injEq]
    constructor
    · rintro rfl
      exact ⟨rfl, h1, h2, h3⟩
    · exact fun h => h.1

/-- A plain name can stand in a directory. -/
theorem proper_of_plain {name : String} (h : nameFault? name = none) : Name.Proper (utf8 name) where
  field := by
    have hdot := not_isHidden_of_plain h
    refine ofField?_eq_into_iff.2 ⟨rfl, utf8_ne_nil_of_plain h, ?_, ?_⟩ <;>
    · intro he
      exact hdot (by rw [Name.IsHidden, he]; rfl)
  noSlash := slash_notMem_of_plain h
  noNul := zero_notMem_of_plain h

/-- Fields that can stand in a directory are steps into them. -/
theorem filterMap_ofField? {fields : List Bytes} (h : ∀ name ∈ fields, Name.Proper name) :
    fields.filterMap Step.ofField? = fields.map .into := by
  induction fields with
  | nil => rfl
  | cons name rest ih =>
    rw [List.filterMap_cons, (h name List.mem_cons_self).field, List.map_cons,
      ih fun other hother => h other (List.mem_cons_of_mem _ hother)]

/-! ### Staging names -/

theorem toList_stagingName (name : String) (token : Token) :
    (stagingName name token).toList =
      '.' :: name.toList.take stemLength ++ '.' :: token.chars ++ ".part".toList := by
  rw [stagingName, String.toList_ofList]

/-- A staging name is hidden. -/
theorem isHidden_stagingName (name : String) (token : Token) :
    Name.IsHidden (utf8 (stagingName name token)) := by
  rw [isHidden_utf8_iff, toList_stagingName]
  rfl

theorem notMem_token {token : Token} {c : Char} (h : c.isAlphanum = false) : c ∉ token.chars := by
  intro hc
  rw [token.isAlphanum_chars c hc] at h
  cases h

/-- A character that is in no staging name unless the artifact's name has it. -/
theorem notMem_stagingName {name : String} (token : Token) {c : Char} (hc : c ∉ name.toList)
    (halnum : c.isAlphanum = false) (hdot : c ≠ '.') : c ∉ (stagingName name token).toList := by
  have hpart : c ∉ ".part".toList := by
    intro h
    rcases List.mem_cons.1 h with rfl | h
    · exact hdot rfl
    · have hall : "part".toList.all Char.isAlphanum = true := by decide
      rw [List.all_eq_true.1 hall c h] at halnum
      cases halnum
  have htake : c ∉ name.toList.take stemLength := fun h => hc (List.mem_of_mem_take h)
  rw [toList_stagingName]
  simp only [List.cons_append, List.append_assoc, List.mem_cons, List.mem_append, not_or]
  exact ⟨hdot, htake, hdot, notMem_token halnum, hpart⟩

/-- A staging name is never short: besides its stem it has a token, two dots and an ending. -/
theorem lt_length_stagingName (name : String) (token : Token) :
    7 < (stagingName name token).toList.length := by
  rw [toList_stagingName]
  simp only [List.cons_append, List.append_assoc, List.length_cons, List.length_append,
    token.length_chars]
  omega

/-- A staging name can stand in a directory. -/
theorem proper_stagingName {name : String} (h : nameFault? name = none) (token : Token) :
    Name.Proper (utf8 (stagingName name token)) where
  field := by
    -- a text of more than two characters is none of the dot entries
    have hlen : 2 < (utf8 (stagingName name token)).length := by
      have hchars := lt_length_stagingName name token
      exact Nat.lt_of_lt_of_le (by omega) (length_toList_le _)
    refine ofField?_eq_into_iff.2 ⟨rfl, ?_, ?_, ?_⟩ <;>
    · intro he
      rw [he] at hlen
      simp at hlen
  noSlash := by
    rw [mem_utf8_iff (by decide)]
    exact notMem_stagingName token (nameFault?_eq_none_iff.1 h).2.1 (by decide) (by decide)
  noNul := by
    rw [mem_utf8_iff (by decide)]
    exact notMem_stagingName token (nameFault?_eq_none_iff.1 h).2.2.2.1 (by decide) (by decide)

/-! ### Trails -/

/-- The name that a step goes into. -/
def Step.name? : Step → Option Name
  | .into name => some name
  | _ => none

/-- The names that steps go into, one after the other. -/
def namesOf (steps : List Step) : List Name := steps.filterMap Step.name?

@[simp] theorem namesOf_nil : namesOf [] = [] := rfl

@[simp] theorem namesOf_append (a b : List Step) : namesOf (a ++ b) = namesOf a ++ namesOf b :=
  List.filterMap_append

@[simp] theorem namesOf_cons_stay (rest : List Step) : namesOf (.stay :: rest) = namesOf rest := rfl

@[simp] theorem namesOf_cons_up (rest : List Step) : namesOf (.up :: rest) = namesOf rest := rfl

@[simp] theorem namesOf_cons_into (name : Name) (rest : List Step) :
    namesOf (.into name :: rest) = name :: namesOf rest := rfl

@[simp] theorem namesOf_map_into (names : List Name) : namesOf (names.map .into) = names := by
  induction names with
  | nil => rfl
  | cons name rest ih => rw [List.map_cons, namesOf_cons_into, ih]

/-- The names that a trail goes into. -/
def Trail.names (t : Trail) : List Name := namesOf t.steps

/-- Every name of a trail from a text without NUL can stand in a directory. -/
theorem proper_of_mem_steps {b : Bytes} (hnul : 0 ∉ b) {name : Name}
    (h : .into name ∈ (Trail.ofBytes b).steps) : name.Proper := by
  obtain ⟨field, hfield, hstep⟩ := List.mem_filterMap.1 h
  obtain ⟨rfl, hname⟩ := ofField?_eq_into_iff.1 hstep
  refine ⟨ofField?_eq_into_iff.2 ⟨rfl, hname⟩, ?_, fun h0 => hnul (mem_of_mem_fieldsBy hfield h0).1⟩
  intro hs
  simpa using (mem_of_mem_fieldsBy hfield hs).2

/-! ### Paths that the system accepts -/

/-- The system accepts the path: it is neither empty nor too long, and has no NUL byte. -/
structure Path.Opens (p : Path) : Prop where
  noNul : 0 ∉ p.bytes
  ne_nil : p.bytes ≠ []
  length_lt : p.bytes.length < pathLimit

instance (p : Path) : Decidable p.Opens :=
  decidable_of_iff (0 ∉ p.bytes ∧ p.bytes ≠ [] ∧ p.bytes.length < pathLimit)
    ⟨fun h => ⟨h.1, h.2.1, h.2.2⟩, fun h => ⟨h.1, h.2, h.3⟩⟩

theorem Path.open?_eq_ok_iff {p : Path} {t : Trail} : p.open? = .ok t ↔ p.Opens ∧ t = p.trail := by
  unfold Path.open?
  split_ifs with hnul hempty hlong
  · exact ⟨fun h => (by cases h), fun h => absurd hnul h.1.noNul⟩
  · exact ⟨fun h => (by cases h), fun h => absurd hempty h.1.ne_nil⟩
  · exact ⟨fun h => (by cases h), fun h => absurd h.1.length_lt (Nat.not_lt.2 hlong)⟩
  · constructor
    · intro h
      exact ⟨⟨hnul, hempty, Nat.not_le.1 hlong⟩, (Except.ok.inj h).symm⟩
    · rintro ⟨-, rfl⟩
      rfl

theorem Path.Opens.open?_eq {p : Path} (h : p.Opens) : p.open? = .ok p.trail :=
  open?_eq_ok_iff.2 ⟨h, rfl⟩

/-- Behind a path that is refused nothing can be found. -/
theorem Path.Opens.of_not_error {p : Path} (h : ∀ cause, p.open? ≠ .error cause) : p.Opens := by
  cases hopen : p.open? with
  | error cause => exact absurd hopen (h cause)
  | ok t => exact (open?_eq_ok_iff.1 hopen).1

/-- Why the system refuses the path, if it does. -/
def Path.refusal? (p : Path) : Option Cause :=
  match p.open? with
  | .error cause => some cause
  | .ok _ => none

/-! ### Paths put together -/

/-- The steps that bytes spell. -/
theorem steps_ofBytes (b : Bytes) :
    (Trail.ofBytes b).steps = (fieldsBy (· = slashByte) b).filterMap Step.ofField? := rfl

theorem steps_ofBytes_nil : (Trail.ofBytes []).steps = [] := rfl

theorem steps_ofBytes_append (a b : Bytes) :
    (Trail.ofBytes (a ++ slashByte :: b)).steps =
      (Trail.ofBytes a).steps ++ (Trail.ofBytes b).steps := by
  rw [steps_ofBytes, fieldsBy_append_cons (by simp), List.filterMap_append]
  rfl

namespace Path

/-- A relative path behind another: the steps of both. -/
theorem steps_append {p q : Path} (hq : q.isAbsolute = false) :
    (p.append q).trail.steps = p.trail.steps ++ q.trail.steps := by
  unfold append trail
  rw [hq, if_neg Bool.false_ne_true]
  split
  · rename_i h
    by_cases hp : p.bytes = []
    · rw [hp, steps_ofBytes_nil]
      rfl
    · -- the slash at the end of the front is the one between the two
      obtain ⟨front, hfront⟩ := List.getLast?_eq_some_iff.1 (h.resolve_left hp)
      have hbytes : front ++ [slashByte] ++ q.bytes = front ++ slashByte :: q.bytes := by simp
      rw [hfront, hbytes, steps_ofBytes_append, steps_ofBytes_append, steps_ofBytes_nil,
        List.append_nil]
  · exact steps_ofBytes_append _ _

theorem absolute_append {p q : Path} (hq : q.isAbsolute = false) :
    (p.append q).trail.absolute = p.trail.absolute := by
  have hq' : q.bytes.head? ≠ some slashByte := by simpa [isAbsolute] using hq
  unfold append trail
  rw [hq, if_neg Bool.false_ne_true]
  simp only [Trail.ofBytes]
  by_cases hp : p.bytes = []
  · rw [if_pos (Or.inl hp), hp]
    simpa using hq'
  · obtain ⟨b, rest, hb⟩ := List.exists_cons_of_ne_nil hp
    split <;> rw [hb] <;> rfl

theorem isAbsolute_ofText {name : String} (h : slashByte ∉ utf8 name) :
    (ofText name).isAbsolute = false := by
  rw [isAbsolute, beq_eq_false_iff_ne]
  intro hs
  exact h (List.mem_of_mem_head? hs)

/-- A name behind a path leaves the path's own bytes in front. -/
theorem prefix_join (p : Path) {name : String} (h : slashByte ∉ utf8 name) :
    p.bytes <+: (p.join name).bytes := by
  unfold join append
  rw [isAbsolute_ofText h, if_neg Bool.false_ne_true]
  split <;> exact List.prefix_append _ _

/-- Where a name behind a path is accepted, so is the path. -/
theorem Opens.of_join {p : Path} {name : String} (h : (p.join name).Opens) (hp : p.bytes ≠ [])
    (hname : slashByte ∉ utf8 name) : p.Opens where
  noNul hnul := h.noNul ((p.prefix_join hname).subset hnul)
  ne_nil := hp
  length_lt := Nat.lt_of_le_of_lt (p.prefix_join hname).length_le h.length_lt

/-- A name behind a path is one more step, and the last. -/
theorem trail_join (p : Path) {name : String} (h : Name.Proper (utf8 name)) :
    (p.join name).trail = ⟨p.trail.absolute, p.trail.steps ++ [.into (utf8 name)], false⟩ := by
  have hrel := isAbsolute_ofText h.noSlash
  have hsteps : (ofText name).trail.steps = [.into (utf8 name)] := by
    have hfields : ∀ x ∈ utf8 name, decide (x = slashByte) = false := fun x hx =>
      decide_eq_false fun he => h.noSlash (he ▸ hx)
    show (fieldsBy (· = slashByte) (utf8 name)).filterMap Step.ofField? = _
    rw [fieldsBy_of_forall hfields, List.filterMap_cons, h.field]
    rfl
  have hne : utf8 name ≠ [] := (ofField?_eq_into_iff.1 h.field).2.1
  have hslash : (p.join name).trail.slash = false := by
    have hback : ∀ front : Bytes, (front ++ utf8 name).getLast? = (utf8 name).getLast? := by
      intro front
      rw [List.getLast?_append, List.getLast?_eq_some_getLast hne]
      rfl
    have hlast : (p.join name).bytes.getLast? = (utf8 name).getLast? := by
      unfold join append
      rw [hrel, if_neg Bool.false_ne_true]
      split
      · exact hback _
      · show (p.bytes ++ slashByte :: utf8 name).getLast? = _
        rw [List.append_cons]
        exact hback _
    show ((p.join name).bytes.getLast? = some slashByte && _) = false
    rw [hlast]
    have hno : (utf8 name).getLast? ≠ some slashByte := fun hs =>
      h.noSlash (List.mem_of_getLast? hs)
    simp [hno]
  have habs := absolute_append (p := p) hrel
  have hst := steps_append (p := p) hrel
  rw [hsteps] at hst
  rw [← hslash]
  exact Trail.mk.injEq .. ▸ ⟨habs, hst, rfl⟩

/-- Every name behind a path has the same bytes in front of it. -/
theorem exists_join (p : Path) : ∃ front : Bytes, (∀ b ∈ front, b ∈ p.bytes ∨ b = slashByte) ∧
    ∀ name, slashByte ∉ utf8 name → (p.join name).bytes = front ++ utf8 name := by
  by_cases hp : p.bytes = [] ∨ p.bytes.getLast? = some slashByte
  · refine ⟨p.bytes, fun b hb => .inl hb, fun name hname => ?_⟩
    rw [join, append, isAbsolute_ofText hname, if_neg Bool.false_ne_true, if_pos hp]
    rfl
  · refine ⟨p.bytes ++ [slashByte], fun b hb => by simpa using hb, fun name hname => ?_⟩
    rw [join, append, isAbsolute_ofText hname, if_neg Bool.false_ne_true, if_neg hp]
    exact List.append_cons ..

/-- Of a name behind a path only the length matters to whether the path is accepted. -/
theorem refusal?_join_congr (p : Path) {name other : String} (h : Name.Proper (utf8 name))
    (h' : Name.Proper (utf8 other)) (hlength : (utf8 name).length = (utf8 other).length) :
    (p.join name).refusal? = (p.join other).refusal? := by
  have hne : utf8 name ≠ [] := (ofField?_eq_into_iff.1 h.field).2.1
  have hne' : utf8 other ≠ [] := (ofField?_eq_into_iff.1 h'.field).2.1
  obtain ⟨front, -, hjoin⟩ := p.exists_join
  have hfront := hjoin name h.noSlash
  have hfront' := hjoin other h'.noSlash
  unfold refusal? open?
  rw [hfront, hfront', List.length_append, List.length_append, hlength]
  simp only [List.mem_append, h.noNul, h'.noNul, or_false, List.append_eq_nil_iff, hne, hne',
    and_false, if_false]
  by_cases hnul : 0 ∈ front
  · simp only [if_pos hnul]
  · by_cases hlong : pathLimit ≤ front.length + (utf8 other).length
    · simp only [if_neg hnul, if_pos hlong]
    · simp only [if_neg hnul, if_neg hlong]

/-- Why no entry can be made under a name behind the path, wherever it leads. -/
def obstacle? (p : Path) (name : String) : Option Cause :=
  match (p.join name).refusal? with
  | some cause => some cause
  | none => if nameLimit < (utf8 name).length then some .nameTooLong else none

theorem obstacle?_congr (p : Path) {name other : String} (h : Name.Proper (utf8 name))
    (h' : Name.Proper (utf8 other)) (hlength : (utf8 name).length = (utf8 other).length) :
    p.obstacle? name = p.obstacle? other := by
  rw [obstacle?, obstacle?, p.refusal?_join_congr h h' hlength, hlength]

theorem obstacle?_ne_alreadyExists (p : Path) (name : String) :
    p.obstacle? name ≠ some .alreadyExists := by
  unfold obstacle? refusal? open?
  split_ifs <;> simp

end Path

end FolderSync
