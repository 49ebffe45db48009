import FolderSync.Proofs.Directory.Staging

/-!
# Installing one artifact

`install` has many ways to fail, and one to succeed.  Each of them is a sequence of changes toward
the directory (`install_ok`, `install_error`): a failure promotes nothing, a success promotes the
body that was received, and only if it is what the descriptor says.

* `Delivery.Genuine`: what is known of an artifact that was installed.
* `SyncError.Concerns`: a failed install is reported under the artifact's name.
* `Promotion`: the ways in which a reply is taken into the directory or not.
-/

namespace FolderSync

open Moment Progress

/-- The error tells that the artifact of a name could not be downloaded, or is not what it should
be. -/
inductive SyncError.Concerns (name : String) : SyncError → Prop
  | download (fault : DownloadFault) : Concerns name (.download name fault)
  | integrity (expected actual : ContentHash) : Concerns name (.integrity name expected actual)

/-- The result of an install names the artifact, whether it succeeds or fails. -/
inductive Names (name : String) : Except SyncError Installed → Prop
  | installed {o : Installed} (h : o.filename = name) : Names name (.ok o)
  | failed {e : SyncError} (h : e.Concerns name) : Names name (.error e)

/-- An artifact that was installed: its descriptor, what is reported of it, and the body that was
received. -/
structure Delivery where
  descriptor : Descriptor
  outcome : Installed
  body : Bytes

namespace Delivery

/-- The name that was promoted, with its content. -/
def entry (x : Delivery) : String × Bytes := (x.descriptor.filename, x.body)

/-- The body is the whole reply to a request for the artifact, by which the requests `earlier` became
those in `later`; it is what the descriptor says, and the report says what it is. -/
structure Genuine (net : Network) (earlier later : List String) (verify : Bool) (directory : Path)
    (x : Delivery) : Prop where
  received : ∃ r, net.request earlier x.descriptor.url = (later, .ok r) ∧ r.status = 200 ∧
    r.complete = true ∧ r.body = x.body
  filename : x.outcome.filename = x.descriptor.filename
  path : x.outcome.path = directory.join x.descriptor.filename
  bytes : x.outcome.bytes = x.body.length
  hash : x.outcome.hash = .of x.body
  verified : verify = true → ContentHash.of x.body = x.descriptor.hash
  opens : (directory.join x.descriptor.filename).Opens

end Delivery

/-! ### Checking -/

namespace Descriptor

variable {d : Descriptor} {verify : Bool} {declared : Option Nat} {received : Nat}
  {hash : ContentHash}

/-- The number of bytes is the one that the descriptor gives, or else the one that was announced. -/
def Measures (d : Descriptor) (declared : Option Nat) (received : Nat) : Prop :=
  ∀ expected, d.size.or declared = some expected → received = expected

/-- What is checked, in order: the length counts before the hash. -/
theorem check_cases (d : Descriptor) (verify : Bool) (declared : Option Nat) (received : Nat)
    (hash : ContentHash) :
    (¬ d.Measures declared received ∧
      ∃ fault, d.check verify declared received hash = .error (.download d.filename fault)) ∨
    (d.Measures declared received ∧ verify = true ∧ hash ≠ d.hash ∧
      d.check verify declared received hash = .error (.integrity d.filename d.hash hash)) ∨
    (d.Measures declared received ∧ (verify = true → hash = d.hash) ∧
      d.check verify declared received hash = .ok ()) := by
  unfold check Measures
  cases d.size.or declared with
  | none =>
    dsimp only
    by_cases hhash : verify = true ∧ hash ≠ d.hash
    · rw [if_pos hhash]
      exact .inr (.inl ⟨by simp, hhash.1, hhash.2, rfl⟩)
    · rw [if_neg hhash]
      exact .inr (.inr ⟨by simp, fun hv => not_not.1 fun hne => hhash ⟨hv, hne⟩, rfl⟩)
  | some expected =>
    dsimp only
    by_cases hlength : received = expected
    · rw [if_neg (not_not.2 hlength)]
      have hmeasures : ∀ n, some expected = some n → received = n := by simp [hlength]
      by_cases hhash : verify = true ∧ hash ≠ d.hash
      · rw [if_pos hhash]
        exact .inr (.inl ⟨hmeasures, hhash.1, hhash.2, rfl⟩)
      · rw [if_neg hhash]
        exact .inr (.inr ⟨hmeasures, fun hv => not_not.1 fun hne => hhash ⟨hv, hne⟩, rfl⟩)
    · rw [if_pos hlength]
      exact .inl ⟨fun hall => hlength (hall expected rfl), _, rfl⟩

theorem hash_eq_of_check (h : d.check verify declared received hash = .ok ()) (hv : verify = true) :
    hash = d.hash := by
  rcases d.check_cases verify declared received hash with ⟨-, _, he⟩ | ⟨-, -, -, he⟩ | ⟨-, hhash, -⟩
  · rw [he] at h
    cases h
  · rw [he] at h
    cases h
  · exact hhash hv

theorem concerns_of_check {e : SyncError} (h : d.check verify declared received hash = .error e) :
    e.Concerns d.filename := by
  rcases d.check_cases verify declared received hash with ⟨-, _, he⟩ | ⟨-, -, -, he⟩ | ⟨-, -, he⟩
  · exact Except.error.inj (he.symm.trans h) ▸ .download _
  · exact Except.error.inj (he.symm.trans h) ▸ .integrity _ _
  · rw [he] at h
    cases h

end Descriptor

/-! ### Taking a reply into the directory -/

/-- The ways in which `promote` ends. -/
inductive Promotion (draw : Draw) (verify : Bool) (d : Descriptor) (directory : Path) (reply : Reply)
    (v : Volume) : Volume × Except SyncError Installed → Prop
  | unstaged {w : Volume} {fault : FileError}
      (stage : v.stage draw directory d.filename = (w, .error fault)) :
      Promotion draw verify d directory reply v (w, .error (.download d.filename (.file fault)))
  | refused {w : Volume} {s : Staged} {e : SyncError}
      (stage : v.stage draw directory d.filename = (w, .ok s)) (concerns : e.Concerns d.filename) :
      Promotion draw verify d directory reply v
        (s.drop (s.receive w reply.pieces).1.inner, .error e)
  | uncommitted {w u : Volume} {s : Staged} {fault : FileError}
      (stage : v.stage draw directory d.filename = (w, .ok s))
      (commit : s.commit (s.receive w reply.pieces).1.inner = (u, .error fault)) :
      Promotion draw verify d directory reply v (u, .error (.download d.filename (.file fault)))
  | promoted {w u : Volume} {s : Staged} {path : Path}
      (stage : v.stage draw directory d.filename = (w, .ok s))
      (written : (s.receive w reply.pieces).2 = .ok ()) (complete : reply.complete = true)
      (check : d.check verify reply.declared reply.body.length (.of reply.body) = .ok ())
      (commit : s.commit (s.receive w reply.pieces).1.inner = (u, .ok path)) :
      Promotion draw verify d directory reply v
        (u, .ok ⟨d.filename, path, reply.body.length, .of reply.body⟩)

section Promote

variable {dir : Location} {start : Disk} {v w : Volume} {log : List (String × Bytes)}
  {directory : Path} {draw : Draw} {verify : Bool} {d : Descriptor} {reply : Reply} {s : Staged}

/-- Everything that `promote` can do. -/
theorem promotion (draw : Draw) (verify : Bool) (d : Descriptor) (directory : Path) (reply : Reply)
    (v : Volume) :
    Promotion draw verify d directory reply v (promote draw verify d directory reply v) := by
  unfold promote
  cases hstage : v.stage draw directory d.filename with
  | mk w result =>
    cases result with
    | error fault => exact .unstaged hstage
    | ok s =>
      have hrefused : ∀ {e : SyncError}, e.Concerns d.filename →
          Promotion draw verify d directory reply v
            (s.drop (s.receive w reply.pieces).1.inner, .error e) := .refused hstage
      dsimp only
      cases hreceive : s.receive w reply.pieces with
      | mk h outcome =>
        rw [hreceive] at hrefused
        cases outcome with
        | error fault => exact hrefused (.download _)
        | ok _ =>
          obtain ⟨hlength, hhash⟩ := Staged.receive_ok (congrArg Prod.snd hreceive)
          have hinner : (s.receive w reply.pieces).1.inner = h.inner := by rw [hreceive]
          rw [hreceive] at hlength hhash
          dsimp only at hlength hhash ⊢
          rw [hlength, hhash]
          split
          · exact hrefused (.download _)
          · rename_i hcomplete
            split
            · rename_i e hcheck
              exact hrefused (Descriptor.concerns_of_check hcheck)
            · rename_i hcheck
              split
              · rename_i hcommit
                exact .uncommitted hstage (hinner ▸ hcommit)
              · rename_i hcommit
                exact .promoted hstage (congrArg Prod.snd hreceive) (by simpa using hcomplete) hcheck
                  (hinner ▸ hcommit)

/-- What becomes of an artifact that was started. -/
theorem promote_snd (hstage : v.stage draw directory d.filename = (w, .ok s)) :
    (promote draw verify d directory reply v).2 =
      match (s.receive w reply.pieces).2 with
      | .error fault => .error (.download d.filename (.unwritten fault s.hidden))
      | .ok () =>
        if reply.complete = false then .error (.download d.filename .interrupted)
        else match d.check verify reply.declared reply.body.length (.of reply.body) with
          | .error e => .error e
          | .ok () =>
            match (s.commit (s.receive w reply.pieces).1.inner).2 with
            | .error fault => .error (.download d.filename (.file fault))
            | .ok path => .ok ⟨d.filename, path, reply.body.length, .of reply.body⟩ := by
  unfold promote
  rw [hstage]
  dsimp only
  cases hreceive : s.receive w reply.pieces with
  | mk h outcome =>
    cases outcome with
    | error fault => rfl
    | ok _ =>
      obtain ⟨hlength, hhash⟩ := Staged.receive_ok (congrArg Prod.snd hreceive)
      rw [hreceive] at hlength hhash
      dsimp only at hlength hhash ⊢
      rw [hlength, hhash]
      by_cases hcomplete : reply.complete = false
      · rw [if_pos hcomplete, if_pos hcomplete]
      · rw [if_neg hcomplete, if_neg hcomplete]
        cases d.check verify reply.declared reply.body.length (.of reply.body) with
        | error e => rfl
        | ok _ =>
          dsimp only
          generalize s.commit h.inner = outcome
          obtain ⟨u, result⟩ := outcome
          cases result <;> rfl

theorem Promotion.names {outcome : Volume × Except SyncError Installed}
    (h : Promotion draw verify d directory reply v outcome) : Names d.filename outcome.2 := by
  cases h with
  | unstaged => exact .failed (.download _)
  | refused _ concerns => exact .failed concerns
  | uncommitted => exact .failed (.download _)
  | promoted => exact .installed rfl

/-- A reply for which a staging file was made has the front of its body in it, and all of it if that was
written. -/
theorem receive_of_stage (h : Since dir start ⟨v.disk, none, log⟩)
    (hdirect : start.Direct directory.trail) (hdir : start.destination directory.trail = dir)
    (hstage : v.stage draw directory d.filename = (w, .ok s)) (reply : Reply) :
    Leads dir ⟨v, none, log⟩ ⟨(s.receive w reply.pieces).1.inner, some s.loc, log⟩ ∧
      s.Bound dir start directory d.filename ∧
      ((s.receive w reply.pieces).2 = .ok () →
        (s.receive w reply.pieces).1.inner.disk.find? s.loc =
          some (.file { bytes := reply.body })) := by
  obtain ⟨hbegun, hbound, hempty⟩ := stage_ok h hdirect hdir hstage
  obtain ⟨made, -, hcreated⟩ := stage_eq_ok hstage
  obtain ⟨taken, htakes, -, -, hall⟩ := Staged.receive_takes hcreated.loc_ne_nil w reply.pieces
  refine ⟨hbegun.trans (htakes.leads dir log [] hempty), hbound, fun hok => ?_⟩
  rw [htakes.content [] hempty, hall hok]
  rfl

theorem promote_ok {o : Installed} (h : Since dir start ⟨v.disk, none, log⟩)
    (hdirect : start.Direct directory.trail) (hdir : start.destination directory.trail = dir)
    (hv : promote draw verify d directory reply v = (w, .ok o)) :
    Leads dir ⟨v, none, log⟩ ⟨w, none, (d.filename, reply.body) :: log⟩ := by
  have hpromotion := promotion draw verify d directory reply v
  rw [hv] at hpromotion
  cases hpromotion with
  | promoted hstage hwritten _ _ hcommit =>
    obtain ⟨hreceived, hbound, hcontent⟩ := receive_of_stage h hdirect hdir hstage reply
    exact hreceived.trans
      (commit_ok hbound (hreceived.since h) (hcontent hwritten) hdirect.noUp hdir hcommit)

/-- What is reported of a reply that was taken into the directory is true of it. -/
theorem genuine_of_promote {net : Network} {earlier later : List String} {o : Installed}
    (hrequest : net.request earlier d.url = (later, .ok reply)) (hstatus : reply.status = 200)
    (hv : promote draw verify d directory reply v = (w, .ok o)) :
    Delivery.Genuine net earlier later verify directory ⟨d, o, reply.body⟩ := by
  have hpromotion := promotion draw verify d directory reply v
  rw [hv] at hpromotion
  cases hpromotion with
  | promoted hstage _ hcomplete hcheck hcommit =>
    obtain ⟨made, -, hcreated⟩ := stage_eq_ok hstage
    obtain ⟨hpath, hopens⟩ := hcreated.eq_join hcommit
    exact ⟨⟨reply, hrequest, hstatus, hcomplete, rfl⟩, rfl, hpath, rfl, rfl,
      Descriptor.hash_eq_of_check hcheck, hopens⟩

theorem promote_error {e : SyncError} (h : Since dir start ⟨v.disk, none, log⟩)
    (hdirect : start.Direct directory.trail) (hdir : start.destination directory.trail = dir)
    (hv : promote draw verify d directory reply v = (w, .error e)) :
    Leads dir ⟨v, none, log⟩ ⟨w, none, log⟩ := by
  have hpromotion := promotion draw verify d directory reply v
  rw [hv] at hpromotion
  cases hpromotion with
  | unstaged hstage => exact stage_error h hdirect hdir d.nameFault?_filename hstage
  | refused hstage _ =>
    obtain ⟨hreceived, hbound, -⟩ := receive_of_stage h hdirect hdir hstage reply
    exact hreceived.trans (drop_leads hbound (hreceived.since h))
  | uncommitted hstage hcommit =>
    obtain ⟨hreceived, hbound, -⟩ := receive_of_stage h hdirect hdir hstage reply
    exact hreceived.trans (commit_error hbound (hreceived.since h) hcommit)

end Promote

/-! ### Installing -/

section Install

variable {dir : Location} {start : Disk} {s t : Session} {log : List (String × Bytes)}
  {directory : Path} {draw : Draw} {verify : Bool} {d : Descriptor} {net : Network}

/-- The requests of an install are those for the artifact's address. -/
theorem asked_install (net : Network) (draw : Draw) (verify : Bool) (d : Descriptor)
    (directory : Path) (s : Session) :
    (install net draw verify d directory s).1.asked = (net.request s.asked d.url).1 := by
  unfold install
  split
  · rename_i hr
    rw [hr]
  · rename_i hr
    rw [hr]
    split <;> rfl

/-- An install that succeeds has promoted a final reply with success. -/
theorem promote_of_install {o : Installed}
    (hs : install net draw verify d directory s = (t, .ok o)) :
    ∃ reply, net.request s.asked d.url = (t.asked, .ok reply) ∧ reply.status = 200 ∧
      promote draw verify d directory reply s.volume = (t.volume, .ok o) := by
  unfold install at hs
  split at hs
  · cases hs
  · rename_i asked reply hreply
    split_ifs at hs with hstatus
    · obtain ⟨-, he⟩ := Prod.mk.inj hs
      cases he
    · obtain ⟨rfl, hresult⟩ := Prod.mk.inj hs
      exact ⟨reply, hreply, not_not.1 hstatus, Prod.ext rfl hresult⟩

/-- **An install that succeeds puts the received body in the artifact's place.** -/
theorem install_ok {o : Installed} (h : Since dir start ⟨s.volume.disk, none, log⟩)
    (hdirect : start.Direct directory.trail) (hdir : start.destination directory.trail = dir)
    (hs : install net draw verify d directory s = (t, .ok o)) :
    ∃ body, Delivery.Genuine net s.asked t.asked verify directory ⟨d, o, body⟩ ∧
      Leads dir ⟨s.volume, none, log⟩ ⟨t.volume, none, (d.filename, body) :: log⟩ := by
  obtain ⟨reply, hrequest, hstatus, hpromote⟩ := promote_of_install hs
  exact ⟨reply.body, genuine_of_promote hrequest hstatus hpromote,
    promote_ok h hdirect hdir hpromote⟩

/-- **An install that fails promotes nothing.** -/
theorem install_error {e : SyncError} (h : Since dir start ⟨s.volume.disk, none, log⟩)
    (hdirect : start.Direct directory.trail) (hdir : start.destination directory.trail = dir)
    (hs : install net draw verify d directory s = (t, .error e)) :
    Leads dir ⟨s.volume, none, log⟩ ⟨t.volume, none, log⟩ := by
  unfold install at hs
  split at hs
  · obtain ⟨rfl, -⟩ := Prod.mk.inj hs
    exact .refl _
  · split_ifs at hs with hstatus
    · obtain ⟨rfl, -⟩ := Prod.mk.inj hs
      exact .refl _
    · obtain ⟨rfl, hresult⟩ := Prod.mk.inj hs
      exact promote_error h hdirect hdir (Prod.ext rfl hresult)

theorem names_install (net : Network) (draw : Draw) (verify : Bool) (d : Descriptor)
    (directory : Path) (s : Session) :
    Names d.filename (install net draw verify d directory s).2 := by
  unfold install
  split
  · exact .failed (.download _)
  · rename_i asked reply hreply
    split_ifs with hstatus
    · exact .failed (.download _)
    · exact (promotion draw verify d directory reply s.volume).names

end Install

end FolderSync
