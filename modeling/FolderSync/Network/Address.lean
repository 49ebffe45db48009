import FolderSync.Url.Reader

/-!
# Addresses that are requested

`Url.isUri` says whether an address can stand in a request at all, `Url.isRequestable` whether one can
be requested; `Url.requestText` is the address as it is requested and `Url.shown` as it is shown.
-/

namespace FolderSync.Url

/-- Is the text in percent form well-formed? -/
def isText (text : String) : Bool := (text? (Percent.decode (utf8 text))).isSome

/-- Does the address name a user that can be sent along? -/
def namesUser (u : Url) : Bool :=
  match u.authority with
  | some { user := some ⟨name, password⟩, .. } =>
    isText name && (name ≠ "" || password.any isText)
  | _ => false

/-- The address that is shown: a user's name and password are sent in another way. -/
def shown (u : Url) : Url := if u.namesUser then u.withoutUser else u

/-- The longest address that can be sent. -/
def lengthLimit : Nat := 65534

/-- Can the address stand in a request? -/
def isUri (u : Url) : Bool :=
  let fitting (c : Char) : Bool := c ∉ ['"', '\x60', '\x7b', '\x7d']
  match u.authority with
  | none => false
  | some authority =>
    authority.host.chars.all fitting && byteLength u.shown.text ≤ lengthLimit

/-- Can a request be made out of the address? -/
def isRequestable (u : Url) : Bool := decide u.IsHttp && u.isUri

/-- The address as it is requested. -/
def requestText (u : Url) : String := u.withoutUser.withoutFragment.text

end FolderSync.Url
