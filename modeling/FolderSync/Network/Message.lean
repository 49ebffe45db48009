import FolderSync.Network.Client
import FolderSync.Text.Fields

/-!
# Messages

How a request and a reply look on the wire.  `Message.request` is the message that asks for an
address; `Message.reply?` reads what comes back, from the first byte to the end of the connection.
The end of a body is announced by its length, or by a last chunk, or it is the end of the
connection; a body that stops short of it is not complete.
-/

namespace FolderSync.Message

/-- The host and the port as they stand in a request. -/
def hostText (a : Authority) : String := ({ a with user := none } : Authority).text

/-- The part of an address that is asked for at its host. -/
def target (u : Url) : String :=
  u.path ++ match u.query with
    | none => ""
    | some query => "?" ++ query

/-- The message that asks for an address, over a connection that is not used again. -/
def request (u : Url) : String :=
  String.join <| List.map (· ++ "\r\n") [
    "GET " ++ target u ++ " HTTP/1.1",
    "accept: */*",
    "host: " ++ (u.authority.map hostText).getD "",
    "connection: close",
    ""]

/-! ### The head of a reply -/

/-- The status of a reply and its fields, with names in lower case. -/
structure Head where
  status : Nat
  fields : List (String × String)
deriving DecidableEq, Repr

/-- The text without the blanks at both ends. -/
def trimmed (text : List Char) : List Char :=
  let isBlank (c : Char) : Bool := c = ' ' || c = '\t'
  ((text.dropWhile isBlank).reverse.dropWhile isBlank).reverse

/-- Cuts a line off, without the line end. -/
def cutLine? : Bytes → Option (Bytes × Bytes)
  | [] => none
  | 13 :: 10 :: rest => some ([], rest)
  | 10 :: rest => some ([], rest)
  | b :: rest => (cutLine? rest).map fun (line, rest) => (b :: line, rest)

/-- A field: its name, a colon and its value. -/
def field? (line : List Char) : Option (String × String) :=
  match line.dropWhile (· ≠ ':') with
  | _ :: value =>
    some (String.ofList ((line.takeWhile (· ≠ ':')).map Char.toLower),
      String.ofList (trimmed value))
  | [] => none

/-- The status in the first line of a reply. -/
def status? (line : List Char) : Option Nat :=
  match fieldsBy (· = ' ') line with
  | _ :: code :: _ => if code.length = 3 then digitsValue? 10 code else none
  | _ => none

/-- Reads fields up to an empty line; each step takes one. -/
def readFields (done : List (String × String)) : (steps : Nat) → Bytes →
    Option (List (String × String) × Bytes)
  | 0, _ => none
  | steps + 1, text =>
    match cutLine? text with
    | none => none
    | some ([], rest) => some (done.reverse, rest)
    | some (line, rest) =>
      match field? (lossyText line).toList with
      | some field => readFields (field :: done) steps rest
      | none => none

/-- Reads the head of a reply; the body follows it. -/
def head? (text : Bytes) : Option (Head × Bytes) := do
  let (first, rest) ← cutLine? text
  let status ← status? (lossyText first).toList
  let (fields, body) ← readFields [] rest.length rest
  return (⟨status, fields⟩, body)

/-! ### The body -/

/-- Reads chunks up to the one of length zero; each step takes one.  `false` says that the last
is missing. -/
def chunks (steps : Nat) (text : Bytes) : List Bytes × Bool :=
  match steps with
  | 0 => ([], false)
  | steps + 1 =>
    match cutLine? text with
    | none => ([], false)
    | some (line, rest) =>
      let digits := trimmed ((lossyText line).toList.takeWhile (· ≠ ';'))
      match digits, digitsValue? 16 digits with
      | [], _ | _, none => ([], false)
      | _, some 0 => ([], true)
      | _, some size =>
        if rest.length < size then ([rest], false)
        else
          let (more, complete) :=
            match cutLine? (rest.drop size) with
            | some ([], rest) => chunks steps rest
            | _ => ([], false)
          (rest.take size :: more, complete)

/-- The reply with a head and the bytes behind it. -/
def Head.reply (h : Head) (body : Bytes) : Reply :=
  let reply (declared : Option Nat) (pieces : List Bytes) (complete : Bool) : Reply :=
    { status := h.status, location := h.fields.lookup "location", declared, pieces, complete }
  if h.fields.lookup "transfer-encoding" = some "chunked" then
    let (pieces, complete) := chunks body.length body
    reply none pieces complete
  else
    match (h.fields.lookup "content-length").bind fun text => digitsValue? 10 text.toList with
    | some length =>
      reply (some length) (pieces (bufferSize - 1) (body.take length)) (length ≤ body.length)
    | none => reply none (pieces (bufferSize - 1) body) true

/-- Reads a reply.  Replies that only announce another one are passed over; each step passes one. -/
def replyWithin (steps : Nat) (text : Bytes) : Option Reply :=
  match steps with
  | 0 => none
  | steps + 1 =>
    match head? text with
    | none => none
    | some (h, body) =>
      if 100 ≤ h.status ∧ h.status < 200 then replyWithin steps body else some (h.reply body)

/-- Reads a reply. -/
def reply? (text : Bytes) : Option Reply := replyWithin text.length text

end FolderSync.Message
