import FolderSync.Fetch
import Mathlib.Tactic.Common

/-!
# The requests that are made

A request adds to the requests made before (`Network.prefix_request`).  On a network whose replies
depend on nothing but the address, what is requested for an address is settled by the address alone:
first it, and then the places where the client goes on (`Network.hops`, `Network.request_eq`).  So the
manifest costs the same requests every time, and gives the same answer (`fetchManifest_eq`).
-/

namespace FolderSync

namespace Network

variable {net : Network}

/-- The requests for an address: it, and where the client goes on from its reply, so many times at most.
Nothing is requested where no connection comes about. -/
def hops (net : Network) : (redirects : Nat) → Url → List String
  | redirects, url =>
    if net.connects url then
      url.requestText ::
        match (net.reply? [] url.requestText).bind (net.redirect? url) with
        | none => []
        | some target =>
          match redirects with
          | 0 => []
          | more + 1 => net.hops more target
    else []

/-- The requests for an address. -/
def requests (net : Network) (url : Url) : List String :=
  if url.isRequestable then net.hops redirectLimit url else []

/-- The requests for the address that a text stands for. -/
def requestsFor (net : Network) (text : String) : List String :=
  match Url.parse text with
  | .error _ => []
  | .ok url => net.requests url

/-! ### Any network -/

theorem prefix_follow (net : Network) (first : String) (asked : List String) (redirects : Nat)
    (url : Url) : asked <+: (net.follow first asked redirects url).1 := by
  induction redirects generalizing asked url with
  | zero =>
    unfold follow
    split
    · dsimp only
      split
      · exact List.prefix_append _ _
      · split <;> exact List.prefix_append _ _
    · exact List.prefix_rfl
  | succ more ih =>
    unfold follow
    split
    · dsimp only
      split
      · exact List.prefix_append _ _
      · split
        · exact List.prefix_append _ _
        · exact (List.prefix_append _ _).trans (ih _ _)
    · exact List.prefix_rfl

/-- A request adds to the requests made before. -/
theorem prefix_request (net : Network) (asked : List String) (url : Url) :
    asked <+: (net.request asked url).1 := by
  unfold request
  split
  · exact prefix_follow net _ asked _ url
  · exact List.prefix_rfl

/-! ### Networks without memory -/

theorem follow_eq (h : net.Stateless) (first : String) (asked : List String) (redirects : Nat)
    (url : Url) : net.follow first asked redirects url =
      (asked ++ net.hops redirects url, (net.follow first [] redirects url).2) := by
  have hreply : net.reply? asked = net.reply? [] := funext fun request => h asked [] request
  induction redirects generalizing asked url with
  | zero =>
    unfold follow hops
    rw [hreply]
    by_cases hconnects : net.connects url = true
    · cases hr : net.reply? [] url.requestText with
      | none => simp [hconnects]
      | some r => cases ht : net.redirect? url r <;> simp [hconnects, ht]
    · simp [hconnects]
  | succ more ih =>
    unfold follow hops
    rw [hreply]
    by_cases hconnects : net.connects url = true
    · cases hr : net.reply? [] url.requestText with
      | none => simp [hconnects]
      | some r =>
        cases ht : net.redirect? url r with
        | none => simp [hconnects, ht]
        | some target =>
          have hnext : ∀ earlier : List String, net.reply? earlier = net.reply? [] := fun earlier =>
            funext fun request => h earlier [] request
          have hlong := ih (asked ++ [url.requestText]) target (hnext _)
          have hshort := ih [url.requestText] target (hnext _)
          simp only [hconnects, if_true, ht, Option.bind_some, List.nil_append]
          rw [hlong, hshort, List.append_assoc]
          rfl
    · simp [hconnects]

/-- **Without memory, requests and reply are settled by the address.** -/
theorem request_eq (h : net.Stateless) (asked : List String) (url : Url) :
    net.request asked url = (asked ++ net.requests url, (net.request [] url).2) := by
  unfold request requests
  split
  · exact follow_eq h _ asked _ url
  · simp

theorem requestText_eq (h : net.Stateless) (asked : List String) (text : String) :
    net.requestText asked text = (asked ++ net.requestsFor text, (net.requestText [] text).2) := by
  unfold requestText requestsFor
  cases Url.parse text with
  | error fault => simp
  | ok url => exact request_eq h asked url

/-- An address that can be requested is requested first, and nothing after it unless the client goes on
from its reply. -/
theorem requests_eq_cons {url : Url} (hurl : url.isRequestable = true)
    (hconnects : net.connects url = true) :
    ∃ redirects, net.requests url = url.requestText :: redirects ∧
      (redirects ≠ [] → ∃ r target, net.reply? [] url.requestText = some r ∧
        net.redirect? url r = some target) := by
  unfold requests hops
  rw [if_pos hurl, if_pos hconnects]
  refine ⟨_, rfl, fun hne => ?_⟩
  cases hr : net.reply? [] url.requestText with
  | none =>
    rw [hr] at hne
    exact absurd rfl hne
  | some r =>
    rw [hr, Option.bind_some] at hne
    cases htarget : net.redirect? url r with
    | none =>
      rw [htarget] at hne
      exact absurd rfl hne
    | some target => exact ⟨r, target, rfl, htarget⟩

end Network

/-! ### The manifest -/

/-- The requests for the manifest of a server. -/
def manifestRequests (net : Network) (baseUrl : String) : List String :=
  net.requestsFor (manifestUrl baseUrl)

/-- The manifest's reply does not depend on the requests made before. -/
theorem fetchManifest_eq {net : Network} (h : net.Stateless) (asked : List String)
    (baseUrl : String) : fetchManifest net asked baseUrl =
      (asked ++ manifestRequests net baseUrl, (fetchManifest net [] baseUrl).2) := by
  unfold fetchManifest manifestRequests
  dsimp only
  rw [Network.requestText_eq h]
  cases (net.requestText [] (manifestUrl baseUrl)) with
  | mk later result => cases result <;> rfl

theorem prefix_fetchManifest (net : Network) (asked : List String) (baseUrl : String) :
    asked <+: (fetchManifest net asked baseUrl).1 := by
  have hrequest : asked <+: (net.requestText asked (manifestUrl baseUrl)).1 := by
    unfold Network.requestText
    cases Url.parse (manifestUrl baseUrl) with
    | error fault => exact List.prefix_rfl
    | ok url => exact Network.prefix_request net asked url
  unfold fetchManifest
  dsimp only
  split
  · rename_i hr
    rwa [hr] at hrequest
  · rename_i hr
    rwa [hr] at hrequest

end FolderSync
