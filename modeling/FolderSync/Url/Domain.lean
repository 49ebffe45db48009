import FolderSync.Text.Fields
import FolderSync.Text.Mapping
import FolderSync.Text.Shaping
import FolderSync.Url.Punycode

/-!
# Domain names

A domain name is a list of labels between dots.  `Domain.toAscii?` gives its ASCII form: each
character is mapped, the text is composed, and a label beyond ASCII is written in Punycode behind
`xn--`.  A name has no ASCII form if it holds a character that is refused, if a label has the shape
of an ASCII form and is none, or if a label's characters cannot stand together.
-/

namespace FolderSync.Domain

/-- An ASCII character that may not stand in a name. -/
def isRefused (c : Char) : Bool :=
  c.toNat ≤ 32 || c.toNat = 127
    || c ∈ ['%', '#', '/', ':', '<', '>', '?', '@', '[', '\\', ']', '^', '|']

/-- The characters after mapping; `none` if one is refused. -/
def mapped? : List Char → Option (List Char)
  | [] => some []
  | c :: rest =>
    match Text.mapChar c with
    | .kept => (mapped? rest).map (c :: ·)
    | .dropped => mapped? rest
    | .replaced characters => (mapped? rest).map (characters ++ ·)
    | .refused => none

/-- Is every character ASCII? -/
def isAscii (label : List Char) : Bool := label.all fun c => c.toNat < 128

/-! ### Characters that stand together -/

/-- The class of the marks that join two letters into one. -/
def joiner : Nat := 9

/-- Does the text end, or begin, with a letter of the given kind but for transparent characters? -/
def meets (kinds : List Text.Joining) (text : List Char) : Bool :=
  match text.dropWhile fun c => Text.joining c = .transparent with
  | c :: _ => Text.joining c ∈ kinds
  | [] => false

/-- May the invisible joiners stand where they do?  Both may stand behind a joining mark; the one
that keeps letters apart also between letters that would join.  `before` is what precedes, in
reverse. -/
def joinersFit (before : List Char) : List Char → Bool
  | [] => true
  | c :: rest =>
    let behindMark := before.head?.any fun b => Text.combiningClass b = joiner
    let fits :=
      if c.toNat = 0x200C then
        behindMark || (meets [.left, .both] before && meets [.right, .both] rest)
      else if c.toNat = 0x200D then behindMark
      else true
    fits && joinersFit (c :: before) rest

/-- Is a label valid as it stands, beside the rule of directions? -/
def isValidLabel (label : List Char) : Bool :=
  !(label.head?.any Text.isMark) && joinersFit [] label

/-- The directions that may stand in a label that begins from left to right. -/
def leftDirections : List Text.Direction := [.leftToRight, .europeanDigit, .neutral, .mark]

/-- The directions that may stand in a label that begins from right to left. -/
def rightDirections : List Text.Direction :=
  [.rightToLeft, .arabicDigit, .europeanDigit, .neutral, .mark]

/-- May characters of these directions make up a label? -/
def directionsFit (label : List Char) : Bool :=
  let ds := label.map Text.direction
  let last := (ds.reverse.dropWhile (· = .mark)).head?
  match ds.head? with
  | none => true
  | some .leftToRight =>
    ds.all (· ∈ leftDirections) && last.any (· ∈ [.leftToRight, .europeanDigit])
  | some .rightToLeft | some .arabicDigit =>
    ds.head? = some .rightToLeft && ds.all (· ∈ rightDirections)
      && last.any (· ∈ [.rightToLeft, .europeanDigit, .arabicDigit])
      && !(ds.contains .europeanDigit && ds.contains .arabicDigit)
  | some _ => false

/-- Does the name hold anything that is written from right to left? -/
def hasRightToLeft (labels : List (List Char)) : Bool :=
  labels.any fun label => label.any fun c => Text.direction c ∈ [.rightToLeft, .arabicDigit]

/-! ### Labels -/

/-- What an ASCII form begins with. -/
def asciiMark : List Char := "xn--".toList

/-- A label read back from its ASCII form, if it has that shape. -/
def opened? (label : List Char) : Option (List Char) :=
  if asciiMark.isPrefixOf label then
    match Punycode.decode? (label.drop 4) with
    | none => none
    | some inner =>
      if isAscii inner then none
      else if mapped? inner = some inner ∧ Text.composed inner = inner then some inner
      else none
  else some label

/-- The ASCII form of a label. -/
def closed (label : List Char) : List Char :=
  if isAscii label then label else asciiMark ++ Punycode.encode label

/-- All results of a list of attempts, if none fails. -/
def every? (f : α → Option β) : List α → Option (List β)
  | [] => some []
  | x :: rest =>
    match f x, every? f rest with
    | some y, some ys => some (y :: ys)
    | _, _ => none

/-- The ASCII form of a name. -/
def toAscii? (name : List Char) : Option (List Char) :=
  match mapped? name with
  | none => none
  | some characters =>
    let labels := fieldsBy (· = '.') (Text.composed characters)
    match every? opened? labels with
    | none => none
    | some opened =>
      let ascii := joinFields '.' (labels.map closed)
      if ascii.any isRefused then none
      else if !(opened.all isValidLabel) then none
      else if hasRightToLeft opened && !(opened.all directionsFit) then none
      else some ascii

end FolderSync.Domain
