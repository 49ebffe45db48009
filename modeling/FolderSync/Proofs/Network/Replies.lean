import FolderSync.Network.Client
import Mathlib.Tactic.Common

/-!
# Final replies

`Network.Replies` says which reply a request for an address comes to in the end: a chain of replies
from each of which the client goes on, no longer than the limit, and the first that it takes for final.  A request
gives just that reply (`Network.request_eq_ok_iff`).
-/

namespace FolderSync

namespace Network

variable {net : Network} {asked : List String} {url : Url} {r : Reply}

/-- Requests come to a reply that the client takes for final, after so many redirects at most. -/
inductive Leads (net : Network) (r : Reply) : List String → Nat → Url → Prop
  | here {asked : List String} {redirects : Nat} {url : Url} (connects : net.connects url = true)
      (reply : net.reply? asked url.requestText = some r) (last : net.redirect? url r = none) :
      Leads net r asked redirects url
  | redirect {asked : List String} {redirects : Nat} {url target : Url} {first : Reply}
      (connects : net.connects url = true)
      (reply : net.reply? asked url.requestText = some first)
      (elsewhere : net.redirect? url first = some target)
      (leads : Leads net r (asked ++ [url.requestText]) redirects target) :
      Leads net r asked (redirects + 1) url

/-- The final reply to a request for an address. -/
def Replies (net : Network) (asked : List String) (url : Url) (r : Reply) : Prop :=
  url.isRequestable = true ∧ net.Leads r asked redirectLimit url

/-- The final reply to a request for the address that a text stands for. -/
def RepliesTo (net : Network) (asked : List String) (text : String) (r : Reply) : Prop :=
  ∃ url, Url.parse text = .ok url ∧ net.Replies asked url r

theorem follow_eq_ok_iff {first : String} {redirects : Nat} :
    (net.follow first asked redirects url).2 = .ok r ↔ net.Leads r asked redirects url := by
  constructor
  · intro h
    induction redirects generalizing asked url with
    | zero =>
      unfold follow at h
      split at h
      · rename_i hconnects
        dsimp only at h
        split at h
        · cases h
        · rename_i reply hreply
          split at h
          · rename_i hlast
            cases h
            exact .here hconnects hreply hlast
          · cases h
      · cases h
    | succ more ih =>
      unfold follow at h
      split at h
      · rename_i hconnects
        dsimp only at h
        split at h
        · cases h
        · rename_i reply hreply
          split at h
          · rename_i hlast
            cases h
            exact .here hconnects hreply hlast
          · rename_i target htarget
            exact .redirect hconnects hreply htarget (ih h)
      · cases h
  · intro h
    induction h with
    | here connects reply last =>
      unfold follow
      simp [connects, reply, last]
    | redirect connects reply elsewhere _ ih =>
      unfold follow
      simp only [connects, if_true, reply, elsewhere]
      exact ih

/-- **A request gives the final reply.** -/
theorem request_eq_ok_iff : (net.request asked url).2 = .ok r ↔ net.Replies asked url r := by
  unfold request Replies
  split
  · rename_i h
    rw [follow_eq_ok_iff]
    exact ⟨fun hleads => ⟨h, hleads⟩, fun hleads => hleads.2⟩
  · rename_i h
    constructor
    · intro hok
      cases hok
    · exact fun hreply => absurd hreply.1 h

/-- There is one final reply at most. -/
theorem Replies.unique {other : Reply} (h : net.Replies asked url r) (ho : net.Replies asked url other) :
    r = other := by
  rw [← request_eq_ok_iff] at h ho
  exact Except.ok.inj (h.symm.trans ho)

theorem requestText_eq_ok_iff {text : String} :
    (net.requestText asked text).2 = .ok r ↔ net.RepliesTo asked text r := by
  unfold requestText RepliesTo
  cases hparse : Url.parse text with
  | error fault => simp
  | ok url =>
    dsimp only
    rw [request_eq_ok_iff]
    constructor
    · exact fun h => ⟨url, rfl, h⟩
    · rintro ⟨other, heq, h⟩
      cases heq
      exact h

end Network

end FolderSync
