import FolderSync.ContentHash
import FolderSync.Network.Address

/-!
# The network

A `Network` says which addresses can be connected to, what the servers behind them reply to a
request, which may depend on the requests before it, and from which replies the client goes on to
another address; `Reply.target?` is the usual way to decide that.  `Network.Stateless` is the case that
replies do not depend on earlier requests.  `Network.ofRoutes` is the network of a table of replies,
`Network.ofReplies` that of replies received before.
-/

namespace FolderSync

/-- A reply: its status, where else to look, the announced length of the body, and the body as it
arrives, piece by piece and possibly not to its end. -/
structure Reply where
  status : Nat
  location : Option String := none
  declared : Option Nat := none
  pieces : List Bytes := []
  complete : Bool := true
deriving DecidableEq, Repr

/-- All bytes of the body that arrive. -/
def Reply.body (r : Reply) : Bytes := r.pieces.flatten

/-- Does the status ask to look elsewhere? -/
def isRedirect (status : Nat) : Bool := status ∈ [301, 302, 303, 307, 308]

/-- Where a reply to an address asks to look.  What cannot stand in a request does not count. -/
def Reply.target? (r : Reply) (url : Url) : Option Url :=
  if isRedirect r.status then
    match r.location with
    | none => none
    | some location =>
      match url.join location with
      | .ok target => if target.isUri then some target else none
      | .error _ => none
  else none

/-- What lies behind addresses.  `reply?` gives the reply to a request after earlier ones; there is
none if the connection is closed instead.  `redirect?` is where the client goes on from a reply to an
address, unless it takes that reply for the final one. -/
structure Network where
  connects : Url → Bool
  reply? : (earlier : List String) → (request : String) → Option Reply
  redirect? : Url → Reply → Option Url

/-- Replies depend on nothing but the address requested. -/
def Network.Stateless (net : Network) : Prop :=
  ∀ earlier later request, net.reply? earlier request = net.reply? later request

/-! ### Tables of replies -/

/-- The reply kept ready for an address. -/
structure Route where
  url : String
  status : Nat := 200
  body : Bytes := []
  location : Option String := none
  /-- The connection is closed without a reply. -/
  closes : Bool := false
  /-- The length that is announced, if it is not that of the body. -/
  length : Option Nat := none
  /-- The body is sent in chunks, without a length. -/
  chunked : Bool := false
  /-- The last chunk is missing. -/
  unfinished : Bool := false
  /-- The body ends with the connection, without a length. -/
  untilClose : Bool := false
deriving DecidableEq, Repr

/-- The reply of a route.  A body that is longer than announced is cut off, one that is shorter
does not arrive to its end. -/
def Route.reply? (r : Route) : Option Reply :=
  if r.closes then none
  else
    let reply (declared : Option Nat) (body : Bytes) (complete : Bool) : Reply :=
      { status := r.status
        location := r.location
        declared
        pieces := pieces (bufferSize - 1) body
        complete }
    if r.chunked then some (reply none r.body (!r.unfinished))
    else if r.untilClose then some (reply none r.body true)
    else
      let length := r.length.getD r.body.length
      some (reply (some length) (r.body.take length) (length ≤ r.body.length))

/-- The reply to any other request. -/
def notFoundReply : Reply := { status := 404, declared := some 0 }

/-- The reply of the table to a request; of two routes for one address the earlier stands. -/
def routesReply? (routes : List Route) (request : String) : Option Reply :=
  match routes.find? fun r => r.url = request with
  | some route => route.reply?
  | none => some notFoundReply

/-- The network of a table of replies.  Only plain connections come about, and only if the link is
up. -/
def Network.ofRoutes (linkUp : Bool) (routes : List Route) : Network where
  connects url := linkUp && url.scheme = "http"
  reply? _ request := routesReply? routes request
  redirect? url r := r.target? url

/-- The network of replies that have been received: there is none to any other request. -/
def Network.ofReplies (received : List (String × Option Reply)) : Network where
  connects url := url.scheme = "http"
  reply? _ request := (received.lookup request).join
  redirect? url r := r.target? url

end FolderSync
