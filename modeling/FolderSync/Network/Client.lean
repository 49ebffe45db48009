import FolderSync.Network.Basic

/-!
# Requests

`Network.request` asks for an address and goes on from the replies that the client does not take for
final, at most ten times.  It gives the final reply, or why there is none, and the requests that were
made.
-/

namespace FolderSync

/-- Why a request gets no final reply, or not all of its body. -/
inductive RequestFault where
  /-- Nothing can be asked for at this address, which is not even given if it is no address. -/
  | unusable (url : Option String)
  | unanswered (url : String)
  | tooManyRedirects (url : String)
  | brokenBody
deriving DecidableEq, Repr

/-- The words for the reason. -/
def RequestFault.message : RequestFault → String
  | .unusable none => "builder error"
  | .unusable (some url) => "builder error for url (" ++ url ++ ")"
  | .unanswered url => "error sending request for url (" ++ url ++ ")"
  | .tooManyRedirects url => "error following redirect for url (" ++ url ++ ")"
  | .brokenBody => "error decoding response body"

/-- Number of redirects that are followed. -/
def redirectLimit : Nat := 10

/-- Requests an address and follows redirects; `first` is the address shown in a fault. -/
def Network.follow (net : Network) (first : String) (asked : List String) :
    (redirects : Nat) → Url → List String × Except RequestFault Reply
  | redirects, url =>
    if net.connects url then
      let asked' := asked ++ [url.requestText]
      match net.reply? asked url.requestText with
      | none => (asked', .error (.unanswered first))
      | some r =>
        match net.redirect? url r with
        | none => (asked', .ok r)
        | some target =>
          match redirects with
          | 0 => (asked', .error (.tooManyRedirects first))
          | more + 1 => net.follow first asked' more target
    else (asked, .error (.unanswered first))

/-- Requests an address. -/
def Network.request (net : Network) (asked : List String) (url : Url) :
    List String × Except RequestFault Reply :=
  if url.isRequestable then net.follow url.shown.text asked redirectLimit url
  else (asked, .error (.unusable (some url.shown.text)))

/-- Requests the address that a text stands for. -/
def Network.requestText (net : Network) (asked : List String) (text : String) :
    List String × Except RequestFault Reply :=
  match Url.parse text with
  | .error _ => (asked, .error (.unusable none))
  | .ok url => net.request asked url

end FolderSync
