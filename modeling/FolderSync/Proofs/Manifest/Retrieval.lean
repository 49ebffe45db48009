import FolderSync.Fetch
import FolderSync.Proofs.Manifest.Format
import FolderSync.Proofs.Network.Replies

/-!
# What asking for the manifest comes to

The answer is settled by the final reply: a complete success whose body holds a manifest brings that
manifest, and everything else is an error of the kind that the first failing condition has
(`fetchManifest_verdict`).
-/

namespace FolderSync

namespace Reply

/-- The reply is a success and arrives to its end. -/
def IsWhole (r : Reply) : Prop := r.status = 200 ∧ r.complete = true

/-- The body is a JSON text. -/
def IsJson (r : Reply) : Prop := ∃ value, Json.read r.body = .ok value

/-- The conditions on a reply in the order in which they are looked at, and what comes of the first
that fails. -/
theorem manifest_cases (r : Reply) (url : String) :
    (r.status ≠ 200 ∧ ∃ fault, r.manifest url = .error (.protocol fault)) ∨
    ((r.status = 200 ∧ r.complete = false) ∧ r.manifest url = .error (.network url .brokenBody)) ∨
    (r.IsWhole ∧ ¬ r.IsJson ∧ ∃ fault, r.manifest url = .error (.protocol fault)) ∨
    (r.IsWhole ∧ r.IsJson ∧ (¬ ∃ listings, Manifest.Holds r.body listings) ∧
      ∃ fault, r.manifest url = .error (.manifest fault)) ∨
    (r.IsWhole ∧ ∃ m, r.manifest url = .ok m ∧ Manifest.ofBytes r.body = .ok m) := by
  unfold manifest
  by_cases hstatus : r.status = 200
  swap
  · rw [if_pos hstatus]
    exact .inl ⟨hstatus, _, rfl⟩
  rw [if_neg (not_not.2 hstatus)]
  by_cases hcomplete : r.complete = false
  · rw [if_pos hcomplete]
    exact .inr (.inl ⟨⟨hstatus, hcomplete⟩, rfl⟩)
  rw [if_neg hcomplete]
  have hwhole : r.IsWhole := ⟨hstatus, Bool.eq_true_of_not_eq_false hcomplete⟩
  cases hbody : Manifest.ofBytes r.body with
  | ok m => exact .inr (.inr (.inr (.inr ⟨hwhole, m, rfl, rfl⟩)))
  | error fault =>
    cases fault with
    | malformed reason line column =>
      have hjson := Manifest.exists_ofBytes_eq_malformed_iff.1 ⟨_, _, _, hbody⟩
      exact .inr (.inr (.inl ⟨hwhole, hjson, _, rfl⟩))
    | rejected fault =>
      obtain ⟨hjson, hnone⟩ := Manifest.exists_ofBytes_eq_rejected_iff.1 ⟨_, hbody⟩
      exact .inr (.inr (.inr (.inl ⟨hwhole, hjson, hnone, _, rfl⟩)))

variable {r : Reply} {url : String} {m : Manifest}

theorem manifest_eq_ok_iff : r.manifest url = .ok m ↔ r.IsWhole ∧ Manifest.ofBytes r.body = .ok m := by
  constructor
  · intro h
    rcases manifest_cases r url with ⟨-, _, he⟩ | ⟨-, he⟩ | ⟨-, -, _, he⟩ | ⟨-, -, -, _, he⟩ |
      ⟨hwhole, _, he, hbody⟩
    all_goals
      rw [h] at he
      cases he
    exact ⟨hwhole, hbody⟩
  · rintro ⟨⟨hstatus, hcomplete⟩, hbody⟩
    simp [manifest, hstatus, hcomplete, hbody]

theorem manifest_network_iff : (∃ e, r.manifest url = .error e ∧ e.kind = .network) ↔
    r.status = 200 ∧ r.complete = false := by
  rcases manifest_cases r url with ⟨hstatus, _, he⟩ | ⟨hbroken, he⟩ | ⟨hwhole, -, _, he⟩ |
    ⟨hwhole, -, -, _, he⟩ | ⟨hwhole, _, he, -⟩
  · simp [he, SyncError.kind, hstatus]
  · simp [he, SyncError.kind, hbroken]
  all_goals simp [he, SyncError.kind, hwhole.2]

theorem manifest_protocol_iff : (∃ e, r.manifest url = .error e ∧ e.kind = .protocol) ↔
    r.status ≠ 200 ∨ r.IsWhole ∧ ¬ r.IsJson := by
  rcases manifest_cases r url with ⟨hstatus, _, he⟩ | ⟨hbroken, he⟩ | ⟨hwhole, hjson, _, he⟩ |
    ⟨hwhole, hjson, -, _, he⟩ | ⟨hwhole, _, he, hbody⟩
  · simp [he, SyncError.kind, hstatus]
  · simp [he, SyncError.kind, hbroken, IsWhole]
  · simp [he, SyncError.kind, hwhole, hjson]
  · simp [he, SyncError.kind, hwhole.1, hjson]
  · obtain ⟨_, ⟨value, hread, -⟩, -⟩ := Manifest.ofBytes_eq_ok_iff.1 hbody
    have hjson : r.IsJson := ⟨value, hread⟩
    simp [he, hwhole.1, hjson]

theorem manifest_manifest_iff : (∃ e, r.manifest url = .error e ∧ e.kind = .manifest) ↔
    r.IsWhole ∧ r.IsJson ∧ ¬ ∃ listings, Manifest.Holds r.body listings := by
  rcases manifest_cases r url with ⟨hstatus, _, he⟩ | ⟨hbroken, he⟩ | ⟨hwhole, hjson, _, he⟩ |
    ⟨hwhole, hjson, hnone, _, he⟩ | ⟨hwhole, _, he, hbody⟩
  · simp [he, SyncError.kind, hstatus, IsWhole]
  · simp [he, SyncError.kind, hbroken, IsWhole]
  · simp [he, SyncError.kind, hjson]
  · simp only [he, SyncError.kind, hwhole, hjson, hnone]
    simp
  · obtain ⟨listings, hholds, -⟩ := Manifest.ofBytes_eq_ok_iff.1 hbody
    have hsome : ∃ listings, Manifest.Holds r.body listings := ⟨listings, hholds⟩
    simp [he, hsome]

end Reply

/-- The answer is that of the final reply. -/
theorem fetchManifest_snd (net : Network) (asked : List String) (baseUrl : String) :
    (fetchManifest net asked baseUrl).2 =
      match (net.requestText asked (manifestUrl baseUrl)).2 with
      | .error fault => .error (.network (manifestUrl baseUrl) fault)
      | .ok reply => reply.manifest (manifestUrl baseUrl) := by
  unfold fetchManifest
  dsimp only
  generalize net.requestText asked (manifestUrl baseUrl) = outcome
  obtain ⟨_, result⟩ := outcome
  cases result <;> rfl

/-- **The verdict on a server's manifest.**  It is accepted just if the final reply is a success that
arrives to its end and whose body holds a manifest; the manifest then has the descriptors that the
entries stand for, in their order.  The error is one of the network if there is no final reply or a
success breaks off, one of the protocol if there is another status or a body that is no JSON text,
and one of the manifest if the JSON text is no manifest. -/
theorem fetchManifest_verdict (net : Network) (asked : List String) (baseUrl : String) :
    let replies := net.RepliesTo asked (manifestUrl baseUrl)
    let answer := (fetchManifest net asked baseUrl).2
    ((∃ m, answer = .ok m) ↔
      ∃ r listings, replies r ∧ r.IsWhole ∧ Manifest.Holds r.body listings) ∧
    (∀ m, answer = .ok m ↔ ∃ r listings, replies r ∧ r.IsWhole ∧ Manifest.Holds r.body listings ∧
      List.Forall₂ Listing.Means listings m.artifacts) ∧
    ((∃ e, answer = .error e ∧ e.kind = .network) ↔
      (¬ ∃ r, replies r) ∨ ∃ r, replies r ∧ r.status = 200 ∧ r.complete = false) ∧
    ((∃ e, answer = .error e ∧ e.kind = .protocol) ↔
      ∃ r, replies r ∧ (r.status ≠ 200 ∨ r.IsWhole ∧ ¬ r.IsJson)) ∧
    ((∃ e, answer = .error e ∧ e.kind = .manifest) ↔
      ∃ r, replies r ∧ r.IsWhole ∧ r.IsJson ∧ ¬ ∃ listings, Manifest.Holds r.body listings) := by
  dsimp only
  rw [fetchManifest_snd]
  cases hanswer : (net.requestText asked (manifestUrl baseUrl)).2 with
  | error fault =>
    have hreplies : ∀ r, ¬ net.RepliesTo asked (manifestUrl baseUrl) r := by
      intro r hr
      rw [← Network.requestText_eq_ok_iff, hanswer] at hr
      cases hr
    simp [hreplies, SyncError.kind]
  | ok reply =>
    have hreplies : ∀ r, net.RepliesTo asked (manifestUrl baseUrl) r ↔ r = reply := by
      intro r
      rw [← Network.requestText_eq_ok_iff, hanswer, Except.ok.injEq, eq_comm]
    simp only [hreplies, exists_eq_left]
    refine ⟨?_, ?_, ?_, ?_, ?_⟩
    · constructor
      · rintro ⟨m, hm⟩
        obtain ⟨hwhole, hbody⟩ := Reply.manifest_eq_ok_iff.1 hm
        obtain ⟨listings, hholds, -⟩ := Manifest.ofBytes_eq_ok_iff.1 hbody
        exact ⟨reply, listings, rfl, hwhole, hholds⟩
      · rintro ⟨_, listings, rfl, hwhole, hholds⟩
        obtain ⟨m, hm⟩ := Manifest.exists_ofBytes_eq_ok hholds
        exact ⟨m, Reply.manifest_eq_ok_iff.2 ⟨hwhole, hm⟩⟩
    · intro m
      rw [Reply.manifest_eq_ok_iff, Manifest.ofBytes_eq_ok_iff]
      constructor
      · rintro ⟨hwhole, listings, hholds, hmeans⟩
        exact ⟨reply, listings, rfl, hwhole, hholds, hmeans⟩
      · rintro ⟨_, listings, rfl, hwhole, hholds, hmeans⟩
        exact ⟨hwhole, listings, hholds, hmeans⟩
    · simp [Reply.manifest_network_iff]
    · exact Reply.manifest_protocol_iff
    · exact Reply.manifest_manifest_iff

end FolderSync
