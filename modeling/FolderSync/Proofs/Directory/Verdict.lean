import FolderSync.Proofs.Directory.Crossing
import FolderSync.Proofs.Directory.Landing
import FolderSync.Proofs.Network.Replies

/-!
# The verdict on an install

An install succeeds just if a whole reply of the right length arrives in a staging file and is written
there, is what the descriptor says, and can be given its name; the first of these that fails settles the
error (`install_verdict`).

* `Descriptor.Arrives`: what an install needs before the hash is compared.
* `Disk.Spared`: what a failed install leaves.  Missing directories on the way of the path may have
  been made, and nothing else.
-/

namespace FolderSync

section Promote

variable {v w : Volume} {directory : Path} {draw : Draw} {verify : Bool} {d : Descriptor}
  {reply : Reply} {staged : Staged}

/-! ### Success and failure -/

/-- A success is taken into the directory if a staging file can be made, and the reply can be written, is
whole and right and can be committed. -/
theorem promote_ok_iff : (∃ o, (promote draw verify d directory reply v).2 = .ok o) ↔
    ∃ w staged, v.stage draw directory d.filename = (w, .ok staged) ∧
      (staged.receive w reply.pieces).2 = .ok () ∧ reply.complete = true ∧
      d.Measures reply.declared reply.body.length ∧
      (verify = true → ContentHash.of reply.body = d.hash) ∧
      ∃ path, (staged.commit (staged.receive w reply.pieces).1.inner).2 = .ok path := by
  cases hstage : v.stage draw directory d.filename with
  | mk w result =>
    cases result with
    | error fault => simp [promote, hstage]
    | ok staged =>
      rw [promote_snd hstage]
      simp only [Prod.mk.injEq, Except.ok.injEq, and_assoc, exists_eq_left', exists_and_left]
      cases hwritten : (staged.receive w reply.pieces).2 with
      | error fault => simp
      | ok _ =>
        cases hcomplete : reply.complete with
        | false => simp
        | true =>
          rcases d.check_cases verify reply.declared reply.body.length (.of reply.body) with
            ⟨hmeasures, _, he⟩ | ⟨-, hverify, hhash, he⟩ | ⟨hmeasures, hhash, he⟩
          · rw [he]
            simp [hmeasures]
          · rw [he]
            simp [hverify, hhash]
          · rw [he]
            cases (staged.commit (staged.receive w reply.pieces).1.inner).2 with
            | error fault => simp
            | ok path => simpa [hmeasures] using hhash

theorem promote_integrity_iff :
    (∃ e, (promote draw verify d directory reply v).2 = .error e ∧ e.kind = .integrity) ↔
      ∃ w staged, v.stage draw directory d.filename = (w, .ok staged) ∧
        (staged.receive w reply.pieces).2 = .ok () ∧ reply.complete = true ∧
        d.Measures reply.declared reply.body.length ∧
        verify = true ∧ ContentHash.of reply.body ≠ d.hash := by
  cases hstage : v.stage draw directory d.filename with
  | mk w result =>
    cases result with
    | error fault => simp [promote, hstage, SyncError.kind]
    | ok staged =>
      rw [promote_snd hstage]
      simp only [Prod.mk.injEq, Except.ok.injEq, and_assoc, exists_eq_left', exists_and_left]
      cases hwritten : (staged.receive w reply.pieces).2 with
      | error fault => simp [SyncError.kind]
      | ok _ =>
        cases hcomplete : reply.complete with
        | false => simp [SyncError.kind]
        | true =>
          rcases d.check_cases verify reply.declared reply.body.length (.of reply.body) with
            ⟨hmeasures, _, he⟩ | ⟨hmeasures, hverify, hhash, he⟩ | ⟨-, hhash, he⟩
          · rw [he]
            simp [hmeasures, SyncError.kind]
          · rw [he]
            simp [hmeasures, hverify, hhash, SyncError.kind]
          · rw [he]
            cases (staged.commit (staged.receive w reply.pieces).1.inner).2 with
            | error fault => simpa [SyncError.kind] using fun _ hv => hhash hv
            | ok path => simpa using fun _ hv => hhash hv

/-! ### What a failure leaves -/

/-- A failure leaves the directories that were made, and nothing else. -/
theorem promote_failed (hdisk : v.disk.WellFormed) {e : SyncError}
    (h : promote draw verify d directory reply v = (w, .error e)) :
    w.disk.Same (v.ensurePath directory).1.disk := by
  have hheld : ∀ {u : Volume} {s : Staged}, v.stage draw directory d.filename = (u, .ok s) →
      ∃ taken, s.Holds (v.ensurePath directory).1.disk taken (s.receive u reply.pieces).1.inner := by
    intro u s hstage
    obtain ⟨made, hmade, hcreated⟩ := stage_eq_ok hstage
    have hgrown := Volume.ensurePath_grown hdisk directory
    rw [hmade] at hgrown ⊢
    obtain ⟨taken, hholds, -⟩ := holds_receive hcreated hgrown.wellFormed reply.pieces
    exact ⟨taken, hholds⟩
  have hpromotion := promotion draw verify d directory reply v
  rw [h] at hpromotion
  cases hpromotion with
  | unstaged hstage =>
    rw [disk_of_stage_error hdisk d.nameFault?_filename hstage]
    exact .refl _
  | refused hstage _ =>
    obtain ⟨taken, hholds⟩ := hheld hstage
    exact hholds.drop
  | uncommitted hstage hcommit =>
    obtain ⟨taken, hholds⟩ := hheld hstage
    obtain ⟨u, hsettled, rfl⟩ := Staged.commit_eq_error hcommit
    exact (hholds.unchanged hsettled).drop

end Promote

/-- What a failed install leaves of a disk.  Directories that were missing on the way of the path may
have been made, but none if the path led to a directory already.  In the folder of the path, what stands
under the name is what stood there, unless that is one of the new directories, through which the path
itself leads and then goes up again. -/
structure Disk.Spared (before after : Disk) (p : Path) (name : String) : Prop
    extends Disk.Made p before after where
  same : ∀ dir, before.folder p = .ok dir → ∀ loc, after.find? loc = before.find? loc
  entry : ∀ dir, after.folder p = .ok dir →
    after.find? (dir.entry name) = before.find? (dir.entry name) ∨
      before.find? (dir.entry name) = none ∧ after.find? (dir.entry name) = some .directory ∧
        after.LeadsBack p (dir.entry name)

theorem Disk.Spared.refl {d : Disk} (hdisk : d.WellFormed) (p : Path) (name : String) :
    d.Spared d p name := ⟨.refl p hdisk, fun _ _ _ => rfl, fun _ _ => .inl rfl⟩

/-- What shows no difference to the disk on which the path has been made is spared. -/
theorem Disk.Spared.of_ensurePath {v : Volume} {after : Disk} {p : Path} (name : String)
    (hdisk : v.disk.WellFormed) (hsame : after.Same (v.ensurePath p).1.disk) :
    v.disk.Spared after p name := by
  have hmade : Disk.Made p v.disk after := (Volume.ensurePath_made hdisk p).congr hsame
  refine ⟨hmade, fun dir hdir loc => ?_, fun dir hdir => ?_⟩
  · rw [hsame.find?, Volume.ensurePath_of_folder hdisk hdir]
  · rcases hmade.find? (dir.entry name) with hsame | ⟨hnone, hnew⟩
    · exact .inl hsame
    · exact .inr ⟨hnone, hnew, hmade.leadsBack hdisk hdir hnone hnew⟩

/-! ### Installing -/

section Install

variable {net : Network} {draw : Draw} {verify : Bool} {d : Descriptor} {target : Path} {s : Session}

/-- What an install needs before the hash is compared: a final reply with success, a staging file, and
a body that arrives to its end, was written and has the right length. -/
structure Descriptor.Arrives (d : Descriptor) (net : Network) (draw : Draw) (target : Path) (s : Session)
    (r : Reply) (w : Volume) (staged : Staged) : Prop where
  replies : net.Replies s.asked d.url r
  status : r.status = 200
  stage : s.volume.stage draw target d.filename = (w, .ok staged)
  written : (staged.receive w r.pieces).2 = .ok ()
  complete : r.complete = true
  measures : d.Measures r.declared r.body.length

/-- Without a success nothing is done. -/
theorem install_of_no_success (h : ¬ ∃ r, net.Replies s.asked d.url r ∧ r.status = 200) :
    (install net draw verify d target s).1.volume = s.volume ∧
      ∃ fault, (install net draw verify d target s).2 = .error (.download d.filename fault) := by
  unfold install
  cases hreply : net.request s.asked d.url with
  | mk asked result =>
    cases result with
    | error fault => exact ⟨rfl, _, rfl⟩
    | ok r =>
      have hreplies : net.Replies s.asked d.url r := by
        rw [← Network.request_eq_ok_iff, hreply]
      have hstatus : r.status ≠ 200 := fun hstatus => h ⟨r, hreplies, hstatus⟩
      dsimp only
      rw [if_pos hstatus]
      exact ⟨rfl, _, rfl⟩

theorem install_of_success {r : Reply} (h : net.Replies s.asked d.url r) (hstatus : r.status = 200) :
    (install net draw verify d target s).1.volume = (promote draw verify d target r s.volume).1 ∧
      (install net draw verify d target s).2 = (promote draw verify d target r s.volume).2 := by
  rw [← Network.request_eq_ok_iff] at h
  unfold install
  cases hreply : net.request s.asked d.url with
  | mk asked result =>
    rw [hreply] at h
    dsimp only at h
    subst h
    dsimp only
    rw [if_neg (not_not.2 hstatus)]
    exact ⟨rfl, rfl⟩

/-- **The verdict on an install.**  It succeeds just if the final reply is a success, a staging file
can be made, the body arrives to its end, is written and has the right length, has the right hash if that
is to be verified, and the disk grants to flush, sync and unlock the staging file and to give it its name.
A hash that is wrong behind a right length is an error of integrity; every other failure is one of the
download.  Without a success the disk is not touched; after any failure it is spared. -/
theorem install_verdict (net : Network) (draw : Draw) (verify : Bool) (d : Descriptor) (target : Path)
    (s : Session) (hdisk : s.volume.disk.WellFormed) :
    let volume := (install net draw verify d target s).1.volume
    let answer := (install net draw verify d target s).2
    ((∃ o, answer = .ok o) ↔ ∃ r w staged, d.Arrives net draw target s r w staged ∧
      (verify = true → ContentHash.of r.body = d.hash) ∧
      (staged.receive w r.pieces).1.inner.Grants 3 ∧
      ((staged.settle (staged.receive w r.pieces).1.inner).1.rename staged.hidden staged.target).2 =
        .ok ()) ∧
    ((∃ e, answer = .error e ∧ e.kind = .integrity) ↔ ∃ r w staged,
      d.Arrives net draw target s r w staged ∧ verify = true ∧ ContentHash.of r.body ≠ d.hash) ∧
    (∀ e, answer = .error e → e.kind = .integrity ∨ e.kind = .download) ∧
    ((¬ ∃ r, net.Replies s.asked d.url r ∧ r.status = 200) → volume = s.volume) ∧
    ∀ e, answer = .error e → s.volume.disk.Spared volume.disk target d.filename := by
  dsimp only
  have hnames := names_install net draw verify d target s
  have hkind : ∀ e, (install net draw verify d target s).2 = .error e →
      e.kind = .integrity ∨ e.kind = .download := by
    intro e he
    rw [he] at hnames
    obtain ⟨⟩ | ⟨⟨⟩⟩ := hnames
    · exact .inr rfl
    · exact .inl rfl
  by_cases hsuccess : ∃ r, net.Replies s.asked d.url r ∧ r.status = 200
  · obtain ⟨r, hreplies, hstatus⟩ := hsuccess
    have hinstall : (install net draw verify d target s).1.volume =
          (promote draw verify d target r s.volume).1 ∧
        (install net draw verify d target s).2 = (promote draw verify d target r s.volume).2 :=
      install_of_success hreplies hstatus
    obtain ⟨hvolume, hanswer⟩ := hinstall
    refine ⟨?_, ?_, hkind, fun hno => absurd ⟨r, hreplies, hstatus⟩ hno, fun e he => ?_⟩
    · rw [hanswer, promote_ok_iff]
      constructor
      · rintro ⟨w, staged, hstage, hwritten, hcomplete, hmeasures, hhash, hcommit⟩
        exact ⟨r, w, staged, ⟨hreplies, hstatus, hstage, hwritten, hcomplete, hmeasures⟩, hhash,
          Staged.commit_ok_iff.1 hcommit⟩
      · rintro ⟨_, w, staged, ⟨hother, -, hstage, hwritten, hcomplete, hmeasures⟩, hhash, hcommit⟩
        obtain rfl := hreplies.unique hother
        exact ⟨w, staged, hstage, hwritten, hcomplete, hmeasures, hhash, Staged.commit_ok_iff.2 hcommit⟩
    · rw [hanswer, promote_integrity_iff]
      constructor
      · rintro ⟨w, staged, hstage, hwritten, hcomplete, hmeasures, hverify, hhash⟩
        exact ⟨r, w, staged, ⟨hreplies, hstatus, hstage, hwritten, hcomplete, hmeasures⟩, hverify, hhash⟩
      · rintro ⟨_, w, staged, ⟨hother, -, hstage, hwritten, hcomplete, hmeasures⟩, hverify, hhash⟩
        obtain rfl := hreplies.unique hother
        exact ⟨w, staged, hstage, hwritten, hcomplete, hmeasures, hverify, hhash⟩
    · rw [hanswer] at he
      rw [hvolume]
      exact .of_ensurePath _ hdisk (promote_failed hdisk (Prod.ext rfl he))
  · have hinstall : (install net draw verify d target s).1.volume = s.volume ∧
        ∃ fault, (install net draw verify d target s).2 = .error (.download d.filename fault) :=
      install_of_no_success hsuccess
    obtain ⟨hvolume, fault, hanswer⟩ := hinstall
    have hnever : ∀ r w staged, ¬ d.Arrives net draw target s r w staged := fun r _ _ h =>
      hsuccess ⟨r, h.replies, h.status⟩
    refine ⟨?_, ?_, hkind, fun _ => hvolume, fun e _ => ?_⟩
    · simp [hanswer, hnever]
    · simp [hanswer, hnever, SyncError.kind]
    · rw [hvolume]
      exact .refl hdisk _ _

end Install

/-! ### A path through the artifact's own name -/

/-- An artifact without content. -/
def Descriptor.crossing : Descriptor :=
  (Descriptor.of "blockcraft-a.jar" "da39a3ee5e6b4b0d3255bfef95601890afd80709"
    "http://[::1]/a").toOption.get (by decide +kernel)

/-- A server with that artifact. -/
def Network.crossing : Network := .ofRoutes true [{ url := "http://[::1]/a" }]

/-- A directory under the artifact's name, and back out of it. -/
def Path.crossing : Path := .ofText "mods/blockcraft-a.jar/.."

/-- The install of the artifact into that directory, where nothing stands yet. -/
def crossed : Session × Except SyncError Installed :=
  install .crossing (fun _ => .ofNat 0) true .crossing .crossing {}

theorem crossed_snd : crossed.2 = .error (.download "blockcraft-a.jar"
    (.file (.io (Path.crossing.join "blockcraft-a.jar") .isADirectory))) := by
  decide +kernel

theorem install_verdict_crossing : ({} : Disk).WellFormed ∧
    (∃ e, crossed.2 = .error e ∧ e.kind = .download) ∧
    ({} : Disk).Spared crossed.1.volume.disk .crossing "blockcraft-a.jar" := by
  have hdisk : ({} : Disk).WellFormed := by decide
  obtain ⟨-, -, -, -, hspared⟩ :=
    install_verdict .crossing (fun _ => .ofNat 0) true .crossing .crossing {} hdisk
  exact ⟨hdisk, ⟨_, crossed_snd, rfl⟩, hspared _ crossed_snd⟩

/-- Where nothing stood, the failed install leaves a directory under the artifact's name. -/
theorem not_untouched_crossing :
    ({} : Volume).entryLocation (Path.crossing.join "blockcraft-a.jar") = .error .notFound ∧
      ({} : Disk).find? [utf8 "mods", utf8 "blockcraft-a.jar"] = none ∧
      (∃ e, crossed.2 = .error e) ∧
      crossed.1.volume.entryLocation (Path.crossing.join "blockcraft-a.jar") =
        .ok [utf8 "mods", utf8 "blockcraft-a.jar"] ∧
      crossed.1.volume.disk.find? [utf8 "mods", utf8 "blockcraft-a.jar"] = some .directory := by
  refine ⟨by decide +kernel, by decide +kernel, ⟨_, crossed_snd⟩, ?_, ?_⟩ <;> decide +kernel

end FolderSync
