import FolderSync.Url.Basic

/-!
# Reading addresses

`Url.parse` reads an absolute address, `Url.join` one that may be relative to another.  Blanks and
control characters around the address and tabs and line ends inside it do not count.

A path is read step by step: `.` stays, `..` takes the step before away.
-/

namespace FolderSync.Url

/-- The characters of an address that count. -/
def relevant (text : String) : List Char :=
  let trim (cs : List Char) : List Char := cs.dropWhile fun c => c.toNat ≤ 32
  (trim (trim text.toList).reverse).reverse.filter fun c => c ∉ ['\t', '\n', '\r']

/-- Cuts a text before the first character of a kind. -/
def cutBefore (stops : Char → Bool) (text : List Char) : List Char × List Char :=
  (text.takeWhile fun c => !stops c, text.dropWhile fun c => !stops c)

/-- Cuts the scheme and its colon off. -/
def scheme? (text : List Char) : Option (String × List Char) :=
  let isPart (c : Char) : Bool := c.isAlphanum || c ∈ ['+', '-', '.']
  match text.head?, text.dropWhile isPart with
  | some first, ':' :: rest =>
    if first.isAlpha then
      some (String.ofList ((text.takeWhile isPart).map Char.toLower), rest)
    else none
  | _, _ => none

/-! ### Paths -/

/-- Is the step `.`, possibly in percent form? -/
def isStay (step : List Char) : Bool := step.map Char.toLower ∈ [".".toList, "%2e".toList]

/-- Is the step `..`, possibly in percent form? -/
def isUp (step : List Char) : Bool :=
  step.map Char.toLower ∈ ["..".toList, ".%2e".toList, "%2e.".toList, "%2e%2e".toList]

/-- Is the step the name of a drive: a letter and a colon or a bar? -/
def isDrive : List Char → Bool
  | [a, b] => a.isAlpha && (b = ':' || b = '|')
  | _ => false

/-- Does the step begin with the name of a drive? -/
def beginsWithDrive : List Char → Bool
  | [a, b] => isDrive [a, b]
  | a :: b :: c :: _ => isDrive [a, b] && c = '\\'
  | _ => false

/-- The steps before the last of them; a drive is not taken away. -/
def stepUp (steps : List (List Char)) : List (List Char) :=
  if steps.getLast?.any beginsWithDrive then steps else steps.dropLast

/-- Takes the raw steps of a path one by one; the last of them ends the path. -/
def takeSteps (kind : SchemeKind) (done : List (List Char)) :
    List (List Char) → List (List Char)
  | [] => done
  | raw :: more =>
    let step := Percent.encode Percent.inPathSet raw
    if isUp step then
      if more = [] then stepUp done ++ [[]] else takeSteps kind (stepUp done) more
    else if isStay step then
      if more = [] then done ++ [[]] else takeSteps kind done more
    else
      let step := if kind = .file ∧ done = [] ∧ isDrive step then step.take 1 ++ [':'] else step
      takeSteps kind (done ++ [step]) more

/-- The path with the given steps. -/
def pathOf (steps : List (List Char)) : List Char := steps.flatMap ('/' :: ·)

/-- Reads a path behind its first slash, from steps that are already taken. -/
def readPath (kind : SchemeKind) (done : List (List Char)) (text : List Char) : List Char :=
  let isSlash (c : Char) : Bool := c = '/' || (kind.isSpecial && c = '\\')
  let path := pathOf (takeSteps kind done (fieldsBy isSlash text))
  if kind = .file then '/' :: path.dropWhile (· = '/') else path

/-- The steps of a path that is already read, without the last. -/
def stepsBeforeLast (path : String) : List (List Char) :=
  (fieldsBy (· = '/') (path.toList.drop 1)).dropLast

/-! ### Query and fragment -/

/-- What stands behind the path. -/
structure Tail where
  query : Option String
  fragment : Option String

/-- Reads the query and the fragment. -/
def readTail (kind : SchemeKind) (text : List Char) : Tail :=
  let (front, back) := cutBefore (· = '#') text
  let inSet := if kind.isSpecial then Percent.inWebQuerySet else Percent.inQuerySet
  { query := match front with
      | [] => none
      | _ :: query => some (String.ofList (Percent.encode inSet query))
    fragment := match back with
      | [] => none
      | _ :: fragment => some (String.ofList (Percent.encode Percent.inFragmentSet fragment)) }

/-- Does a character end the path? -/
def endsPath (c : Char) : Bool := c = '?' || c = '#'

/-! ### Authority -/

/-- Does a character end the authority? -/
def endsAuthority (kind : SchemeKind) (c : Char) : Bool :=
  c = '/' || endsPath c || (kind.isSpecial && c = '\\')

/-- Cuts at the last `@`. -/
def cutAtUser? (text : List Char) : Option (List Char × List Char) :=
  if '@' ∈ text then
    let host := (text.reverse.takeWhile (· ≠ '@')).reverse
    some (text.take (text.length - host.length - 1), host)
  else none

/-- Reads a user's name and password; both may be missing. -/
def readUser (text : List Char) : Option UserInfo :=
  let (name, rest) := cutBefore (· = ':') text
  let password := rest.drop 1
  let write (cs : List Char) : String := String.ofList (Percent.encode Percent.inUserSet cs)
  if name = [] ∧ password = [] then none
  else some ⟨write name, if password = [] then none else some (write password)⟩

/-- The length of a host: up to a colon that does not stand in brackets. -/
def hostLength (bracketed : Bool) : List Char → Nat
  | [] => 0
  | c :: rest =>
    if c = ':' ∧ bracketed = false then 0
    else 1 + hostLength (if c = '[' then true else if c = ']' then false else bracketed) rest

/-- Reads a port; what follows its digits must be a backslash, which begins the path. -/
def readPort (scheme : String) (text : List Char) : Except UrlFault (Option Nat × List Char) :=
  let (digits, rest) := cutBefore (fun c => !c.isDigit) text
  let port := (digitsValue? 10 digits).getD 0
  if 65535 < port then .error .invalidPort
  else if rest ≠ [] ∧ rest.head? ≠ some '\\' then .error .invalidPort
  else if digits = [] ∨ some port = defaultPort? scheme then .ok (none, rest)
  else .ok (some port, rest)

/-- Reads a host and a port. -/
def readHost (kind : SchemeKind) (scheme : String) (text : List Char) :
    Except UrlFault (Host × Option Nat × List Char) := do
  let length := hostLength false text
  let name := text.take length
  let rest := text.drop length
  if kind = .web ∧ name = [] then .error .emptyHost
  else
    let host ← if kind.isSpecial then Host.ofWeb name else Host.ofOther name
    match rest with
    | [] => .ok (host, none, [])
    | _ :: digits =>
      if host = .domain "" then .error .emptyHost
      else
        let (port, rest) ← readPort scheme digits
        .ok (host, port, rest)

/-- Reads what stands behind two slashes. -/
def readAuthority (kind : SchemeKind) (scheme : String) (text : List Char) :
    Except UrlFault (Authority × List Char) := do
  let (front, back) := cutBefore (endsAuthority kind) text
  match cutAtUser? front with
  | none =>
    let (host, port, rest) ← readHost kind scheme front
    .ok (⟨none, host, port⟩, rest ++ back)
  | some (userText, hostText) =>
    if userText = [] ∧ hostText = [] ∧ back ≠ [] then .error .emptyHost
    else
      let (host, port, rest) ← readHost kind scheme hostText
      let user := readUser userText
      if host = .domain "" ∧ user ≠ none then .error .emptyHost
      else .ok (⟨user, host, port⟩, rest ++ back)

/-- Reads the path behind an authority. -/
def readPathStart (kind : SchemeKind) (text : List Char) : List Char :=
  match text with
  | [] => if kind.isSpecial then ['/'] else []
  | c :: rest =>
    if c = '/' ∨ (kind.isSpecial = true ∧ c = '\\') then readPath kind [] rest
    else readPath kind [] text

/-- Reads what stands behind two slashes, up to the end. -/
def readBehindSlashes (kind : SchemeKind) (scheme : String) (text : List Char) :
    Except UrlFault Url := do
  let (authority, rest) ← readAuthority kind scheme text
  let (path, rest) := cutBefore endsPath rest
  let tail := readTail kind rest
  .ok ⟨scheme, some authority, String.ofList (readPathStart kind path), tail.query, tail.fragment⟩

/-! ### Files -/

/-- An address of a file on a host. -/
def fileUrl (host : Host) (path : List Char) (rest : List Char) : Url :=
  let tail := readTail .file rest
  ⟨"file", some ⟨none, host, none⟩, String.ofList path, tail.query, tail.fragment⟩

/-- Reads the address of a file behind `file:`. -/
def readLocal (text : List Char) : Except UrlFault Url :=
  let isSlash (c : Char) : Bool := c = '/' || c = '\\'
  let (front, rest) := cutBefore endsPath text
  match front with
  | a :: b :: more =>
    if isSlash a && isSlash b then
      let (hostText, path) := cutBefore isSlash more
      if isDrive hostText then
        .ok (fileUrl (.domain "") (readPath .file [] more) rest)
      else if hostText = [] then
        .ok (fileUrl (.domain "") (readPath .file [] path) rest)
      else
        match Host.ofWeb hostText with
        | .error fault => .error fault
        | .ok host =>
          if host = .domain "localhost" then
            .ok (fileUrl (.domain "") (readPath .file [] path) rest)
          else
            let path := readPathStart .file path
            let first := (path.drop 1).takeWhile (· ≠ '/')
            .ok (fileUrl (if isDrive first then .domain "" else host) path rest)
    else .ok (fileUrl (.domain "") (readPath .file [] (if isSlash a then b :: more else front)) rest)
  | a :: more =>
    .ok (fileUrl (.domain "") (readPath .file [] (if isSlash a then more else front)) rest)
  | [] => .ok (fileUrl (.domain "") ['/'] rest)

/-! ### Whole addresses -/

/-- Reads an address behind its scheme. -/
def readBehindScheme (scheme : String) (text : List Char) : Except UrlFault Url :=
  match SchemeKind.of scheme with
  | .file => readLocal text
  | .web =>
    readBehindSlashes .web scheme (text.dropWhile fun c => c = '/' || c = '\\')
  | .other =>
    match text with
    | '/' :: '/' :: rest => readBehindSlashes .other scheme rest
    | _ =>
      let (front, rest) := cutBefore endsPath text
      let tail := readTail .other rest
      let path := match front with
        | '/' :: path => readPath .other [] path
        | _ => Percent.encode Percent.isControl front
      .ok ⟨scheme, none, String.ofList path, tail.query, tail.fragment⟩

/-- Reads an absolute address. -/
def parse (text : String) : Except UrlFault Url :=
  match scheme? (relevant text) with
  | some (scheme, rest) => readBehindScheme scheme rest
  | none => .error .relative

/-- Reads what is relative to an address of the web. -/
def readRelative (base : Url) (text : List Char) : Except UrlFault Url :=
  let isSlash (c : Char) : Bool := c = '/' || c = '\\'
  let (front, rest) := cutBefore endsPath text
  let tail := readTail .web rest
  match front with
  | [] =>
    .ok { base with query := if tail.query = none then base.query else tail.query
                    fragment := tail.fragment }
  | a :: more =>
    if isSlash a && more.head?.any isSlash then
      readBehindSlashes .web base.scheme
        (if "//".toList.isPrefixOf text then text.drop 2 else text.dropWhile isSlash)
    else
      let path := if isSlash a then readPath .web [] more
        else readPath .web (stepsBeforeLast base.path) front
      .ok { base with path := String.ofList path, query := tail.query, fragment := tail.fragment }

/-- Reads an address that may be relative to one of the web. -/
def join (base : Url) (text : String) : Except UrlFault Url :=
  let text := relevant text
  match scheme? text with
  | none => readRelative base text
  | some (scheme, rest) =>
    let slashes := (rest.takeWhile fun c => c = '/' || c = '\\').length
    if scheme = base.scheme ∧ slashes < 2 then readRelative base rest
    else readBehindScheme scheme rest

end FolderSync.Url
