import FolderSync.Url.Host

/-!
# Addresses

A `Url` is an address in its parts.  `Url.text` writes it; reading gives every address exactly one
written form.  `Url.withoutUser` and `Url.withoutFragment` leave out what is not sent.
-/

namespace FolderSync

/-- The user's name and password before a host. -/
structure UserInfo where
  name : String
  password : Option String
deriving DecidableEq, Repr

/-- The part of an address behind two slashes.  The port is left out if it is the scheme's own. -/
structure Authority where
  user : Option UserInfo
  host : Host
  port : Option Nat
deriving DecidableEq, Repr

/-- An address in its parts, each as it is written. -/
structure Url where
  scheme : String
  authority : Option Authority
  path : String
  query : Option String
  fragment : Option String
deriving DecidableEq, Repr

/-- How an address of a scheme is read. -/
inductive SchemeKind where
  | web
  | file
  | other
deriving DecidableEq, Repr

/-- The kind of a scheme. -/
def SchemeKind.of (scheme : String) : SchemeKind :=
  if scheme = "file" then .file
  else if scheme ∈ ["http", "https", "ws", "wss", "ftp"] then .web
  else .other

/-- Does a backslash stand for a slash, and is there always a path? -/
def SchemeKind.isSpecial : SchemeKind → Bool
  | .other => false
  | _ => true

/-- The port that is used when none is given. -/
def defaultPort? (scheme : String) : Option Nat :=
  if scheme = "http" ∨ scheme = "ws" then some 80
  else if scheme = "https" ∨ scheme = "wss" then some 443
  else if scheme = "ftp" then some 21
  else none

/-- The user's part in writing. -/
def UserInfo.text (u : UserInfo) : String :=
  match u.password with
  | none => u.name ++ "@"
  | some password => u.name ++ ":" ++ password ++ "@"

/-- The authority in writing. -/
def Authority.text (a : Authority) : String :=
  (match a.user with
    | none => ""
    | some user => user.text)
  ++ String.ofList a.host.chars
  ++ match a.port with
    | none => ""
    | some port => ":" ++ toString port

namespace Url

/-- The address in writing.  A path that begins with two slashes and has no authority before it
gets `/.` in front, lest it be taken for one. -/
def text (u : Url) : String :=
  u.scheme ++ ":"
  ++ (match u.authority with
    | some authority => "//" ++ authority.text
    | none => if "//".toList.isPrefixOf u.path.toList then "/." else "")
  ++ u.path
  ++ (match u.query with
    | none => ""
    | some query => "?" ++ query)
  ++ match u.fragment with
    | none => ""
    | some fragment => "#" ++ fragment

/-- Is the address one of the web, over a plain or a secured connection? -/
def IsHttp (u : Url) : Prop := u.scheme = "http" ∨ u.scheme = "https"

instance (u : Url) : Decidable u.IsHttp := inferInstanceAs (Decidable (_ ∨ _))

/-- The address without its fragment. -/
def withoutFragment (u : Url) : Url := { u with fragment := none }

/-- The address without the user's part. -/
def withoutUser (u : Url) : Url :=
  { u with authority := u.authority.map fun a => { a with user := none } }

end Url

end FolderSync
