import FolderSync.Proofs.Directory.Install
import FolderSync.Proofs.Directory.Remaking
import FolderSync.Proofs.Directory.Tokens
import FolderSync.Proofs.Disk.Merge

/-!
# Artifacts do not get in each other's way

Artifacts of different names share the way to their directory and, where the disk grants all calls,
nothing else.  `Volume.Beside` is a volume on which artifacts of some names may have been installed;
another artifact meets the same fate there as on the volume at the start (`promote_alike`), and makes the
same difference (`find?_promote`, `promote_carries`).

* `Alike`: results that differ in the token of a staging name at most.
* `stage_alike`: an artifact is started on both volumes or on none.
* `Descriptor.verdict`: what becomes of an artifact that was started.
* `deliver_beside`: the same of a whole install.
-/

namespace FolderSync

open Moment Progress

/-- Two faults that differ in the token of a staging name at most. -/
inductive FileError.Alike (name : String) : FileError → FileError → Prop
  | refl (fault : FileError) : Alike name fault fault
  | staging (directory base : Path) (cause : Cause) (t u : Token) :
      Alike name (.ioAt directory cause (base.join (stagingName name t)))
        (.ioAt directory cause (base.join (stagingName name u)))

/-- Two results for an artifact that differ in the token of a staging name at most. -/
inductive Alike (name : String) : Except SyncError Installed → Except SyncError Installed → Prop
  | refl (result : Except SyncError Installed) : Alike name result result
  | file {fault other : FileError} (h : fault.Alike name other) :
      Alike name (.error (.download name (.file fault))) (.error (.download name (.file other)))

theorem Alike.isOk_iff {name : String} {a b : Except SyncError Installed} (h : Alike name a b) :
    a.isOk = true ↔ b.isOk = true := by
  cases h with
  | refl => rfl
  | file => rfl

/-! ### Making the staging file -/

section Staging

variable {v w : Volume} {dir : Location} {directory base : Path} {name : String} {tokens : List Token}

/-- What stands in the way of one staging name stands in the way of the first that is tried. -/
theorem createStaging_of_obstacle (plain : nameFault? name = none) (hfolder : v.disk.folder base = .ok dir)
    {token : Token} {cause : Cause} (h : base.obstacle? (stagingName name token) = some cause) :
    createStaging v directory base name (token :: tokens) =
      (v, .error (.ioAt directory cause (base.join (stagingName name token)))) := by
  have hplace : v.createFile (base.join (stagingName name token)) = (v, .error cause) := by
    unfold Volume.createFile
    rw [Volume.entryLocation_join_of_folder (proper_stagingName plain token) hfolder, h]
  unfold createStaging
  simp only [hplace]
  cases cause with
  | alreadyExists => exact absurd h (base.obstacle?_ne_alreadyExists _)
  | _ => rfl

/-- A staging file is tried under one name after the other, up to the first that is free. -/
theorem createStaging_eq (plain : nameFault? name = none) (hfolder : v.disk.folder base = .ok dir)
    (h : ∀ token, base.obstacle? (stagingName name token) = none) :
    createStaging v directory base name tokens =
      match tokens.find? fun token => v.disk.find? (dir.entry (stagingName name token)) = none with
      | none => (v, .error (.ioAt directory .noFreeName base))
      | some token =>
        match v.attempt (.createFile (dir.entry (stagingName name token))) with
        | (w, .error cause) => (w, .error (.ioAt directory cause (base.join (stagingName name token))))
        | (w, .ok ()) => (w, .ok ⟨directory.join name, base.join (stagingName name token),
            dir.entry (stagingName name token)⟩) := by
  induction tokens with
  | nil => rfl
  | cons token tokens ih =>
    have hplace : v.entryLocation (base.join (stagingName name token)) =
        .ok (dir.entry (stagingName name token)) := by
      rw [Volume.entryLocation_join_of_folder (proper_stagingName plain token) hfolder, h token]
      rfl
    rw [createStaging, List.find?_cons]
    cases hentry : v.disk.find? (dir.entry (stagingName name token)) with
    | none =>
      cases hattempt : v.attempt (.createFile (dir.entry (stagingName name token))) with
      | mk w result =>
        cases result with
        | ok _ =>
          have hcreate : v.createFile (base.join (stagingName name token)) =
              (w, .ok (dir.entry (stagingName name token))) := by
            simp only [Volume.createFile, hplace, hentry, hattempt]
          simp [hcreate, hattempt]
        | error cause =>
          obtain ⟨-, reason, rfl⟩ := Volume.attempt_eq_error hattempt
          have hcreate : v.createFile (base.join (stagingName name token)) =
              (w, .error (.refused reason)) := by
            simp only [Volume.createFile, hplace, hentry, hattempt]
          simp [hcreate, hattempt]
    | some entry =>
      have hcreate : v.createFile (base.join (stagingName name token)) = (v, .error .alreadyExists) := by
        simp only [Volume.createFile, hplace, hentry]
      simp [hcreate, ih]

/-- Where the same staging names are free, and the disk grants all calls, a staging file is made on both
volumes or on none. -/
theorem createStaging_alike (directory : Path) (plain : nameFault? name = none) (hcalm : v.Calm)
    (hcalm' : w.Calm) (hv : v.disk.folder base = .ok dir) (hw : w.disk.folder base = .ok dir)
    (draw draw' : Draw)
    (hfree : ∀ token, w.disk.find? (dir.entry (stagingName name token)) =
      v.disk.find? (dir.entry (stagingName name token))) :
    (∃ a s b u, createStaging v directory base name (draw.candidates v.disk) = (a, .ok s) ∧
        createStaging w directory base name (draw'.candidates w.disk) = (b, .ok u)) ∨
      ∃ fault fault', createStaging v directory base name (draw.candidates v.disk) = (v, .error fault) ∧
        createStaging w directory base name (draw'.candidates w.disk) = (w, .error fault') ∧
        fault.Alike name fault' := by
  cases hobstacle : base.obstacle? (stagingName name (.ofNat 0)) with
  | some cause =>
    have h : ∀ token, base.obstacle? (stagingName name token) = some cause := fun token =>
      (base.obstacle?_stagingName plain token _).trans hobstacle
    exact .inr ⟨_, _, createStaging_of_obstacle plain hv (h _), createStaging_of_obstacle plain hw (h _),
      .staging directory base cause _ _⟩
  | none =>
    have h : ∀ token, base.obstacle? (stagingName name token) = none := fun token =>
      (base.obstacle?_stagingName plain token _).trans hobstacle
    rw [createStaging_eq plain hv h, createStaging_eq plain hw h]
    by_cases hany : ∃ token, v.disk.find? (dir.entry (stagingName name token)) = none
    · have hany' : ∃ token, w.disk.find? (dir.entry (stagingName name token)) = none :=
        hany.imp fun token htoken => (hfree token).trans htoken
      obtain ⟨t, ht⟩ := draw.exists_find?_candidates hany
      obtain ⟨u, hu⟩ := draw'.exists_find?_candidates hany'
      simp only [ht, hu, hcalm.attempt_eq, hcalm'.attempt_eq]
      exact .inl ⟨_, _, _, _, rfl, rfl⟩
    · have hany' : ¬ ∃ token, w.disk.find? (dir.entry (stagingName name token)) = none :=
        fun h => hany (h.imp fun token htoken => (hfree token).symm.trans htoken)
      rw [find?_eq_none_of_taken hany, find?_eq_none_of_taken hany']
      exact .inr ⟨_, _, rfl, rfl, .refl _⟩

end Staging

/-! ### Beside the start -/

/-- Where artifacts of the names `taken` may have been installed since `v`: on the way each location is
as it was or as making the path leaves it, and off the way only their entries may be others.  The disk
grants all calls. -/
structure Volume.Beside (p : Path) (v : Volume) (taken : List String) (w : Volume) : Prop where
  calm : w.Calm
  wellFormed : w.disk.WellFormed
  here : w.disk.here = v.disk.here
  way : ∀ l, l <+: v.disk.destination p.trail → w.disk.find? l = v.disk.find? l ∨
    w.disk.find? l = (v.ensurePath p).1.disk.find? l
  apart : ∀ l, ¬ l <+: v.disk.destination p.trail →
    (∀ name ∈ taken, l ≠ (v.disk.destination p.trail).entry name) →
    w.disk.find? l = v.disk.find? l

section Beside

variable {v w a b : Volume} {p : Path} {taken : List String} {draw draw' : Draw} {verify : Bool}
  {d : Descriptor} {reply : Reply} {s : Staged} {name : String}

theorem Volume.Beside.refl (hcalm : v.Calm) (hdisk : v.disk.WellFormed) (taken : List String) :
    v.Beside p taken v :=
  ⟨hcalm, hdisk, rfl, fun _ _ => .inl rfl, fun _ _ _ => rfl⟩

/-- No entry of a directory lies on the way to it. -/
theorem entry_not_way (dir : Location) (name : String) : ¬ dir.entry name <+: dir :=
  not_prefix_of_child dir _

theorem Volume.Beside.direct (h : v.Beside p taken w) (hdisk : v.disk.WellFormed)
    (ht : v.disk.Direct p.trail) : w.disk.Direct p.trail := by
  have hstart : w.disk.start p.trail = v.disk.start p.trail := by
    rw [Disk.start, Disk.start, h.here]
  refine ⟨ht.noUp, fun front hfront target hlink => ?_⟩
  rw [hstart] at hlink
  rcases h.way _ ((List.prefix_append_right_inj _).2 hfront) with hsame | hmade
  · exact ht.noLink front hfront target (hsame ▸ hlink)
  · have hgrown := (Volume.ensurePath_grown hdisk p).direct ht
    refine hgrown.noLink front hfront target ?_
    rw [Disk.start, (Volume.ensurePath_grown hdisk p).here, ← Disk.start, ← hmade, hlink]

theorem Volume.Beside.destination_eq (h : v.Beside p taken w) :
    w.disk.destination p.trail = v.disk.destination p.trail :=
  Disk.destination_congr h.here p.trail

/-- Off the way making a path changes nothing. -/
theorem find?_ensurePath (hdisk : v.disk.WellFormed) (ht : v.disk.Direct p.trail) {l : Location}
    (hl : ¬ l <+: v.disk.destination p.trail) :
    (v.ensurePath p).1.disk.find? l = v.disk.find? l := by
  have hleads : Leads (v.disk.destination p.trail) ⟨v, none, []⟩ ⟨(v.ensurePath p).1, none, []⟩ :=
    (Volume.ensurePath_leads (.refl hdisk) ht rfl).1
  have hsince := hleads.since (.refl hdisk)
  rcases hsince.kept l (fun hl => by cases hl) (fun x hx => by cases hx) with hkept | ⟨hway, -⟩
  · exact hkept
  · exact absurd hway hl

theorem calm_ensurePath (hcalm : v.Calm) (hdisk : v.disk.WellFormed) (ht : v.disk.Direct p.trail) :
    (v.ensurePath p).1.Calm := by
  have hleads : Leads (v.disk.destination p.trail) ⟨v, none, []⟩ ⟨(v.ensurePath p).1, none, []⟩ :=
    (Volume.ensurePath_leads (.refl hdisk) ht rfl).1
  exact hleads.calm hcalm

/-- Where a path has been made, its directory is there, and the path made absolute leads to it. -/
theorem folder_absolute_of_ensurePath (hdisk : v.disk.WellFormed) (ht : v.disk.Direct p.trail)
    (hmade : v.ensurePath p = (a, .ok ())) :
    a.disk.WellFormed ∧ a.disk.Direct p.trail ∧ a.disk.here = v.disk.here ∧
      a.disk.find? (v.disk.destination p.trail) = some .directory ∧
      a.disk.folder (a.disk.absolute p) = .ok (v.disk.destination p.trail) := by
  have hgrown := Volume.ensurePath_grown hdisk p
  have hsince : Since (v.disk.destination p.trail) v.disk ⟨v.disk, none, []⟩ := .refl hdisk
  have hdir := (Volume.ensurePath_leads hsince ht rfl).2
  rw [hmade] at hgrown hdir
  have hdest : a.disk.destination p.trail = v.disk.destination p.trail :=
    Disk.destination_congr hgrown.here p.trail
  refine ⟨hgrown.wellFormed, hgrown.direct ht, hgrown.here, hdir rfl, ?_⟩
  rw [Disk.folder_absolute hgrown.wellFormed, ← hdest]
  exact Disk.folder_eq hgrown.wellFormed ht.noUp (hdest ▸ hdir rfl)

/-- An artifact is started on both volumes or on none. -/
theorem stage_alike (hcalm : v.Calm) (hdisk : v.disk.WellFormed) (ht : v.disk.Direct p.trail)
    (h : v.Beside p taken w) (plain : nameFault? name = none) (draw draw' : Draw)
    (htaken : ∀ other ∈ taken, nameFault? other = none) :
    (∃ a s b u, v.stage draw p name = (a, .ok s) ∧ w.stage draw' p name = (b, .ok u)) ∨
      ∃ a fault b fault', v.stage draw p name = (a, .error fault) ∧
        w.stage draw' p name = (b, .error fault') ∧ fault.Alike name fault' := by
  obtain ⟨hresult, hway⟩ := Volume.ensurePath_between hcalm h.calm hdisk h.wellFormed h.here ht h.way
  have hcalma := calm_ensurePath hcalm hdisk ht
  have hcalmb := calm_ensurePath h.calm h.wellFormed (h.direct hdisk ht)
  unfold Volume.stage
  rw [plain]
  cases hv : v.ensurePath p with
  | mk a result =>
    cases hw : w.ensurePath p with
    | mk b result' =>
      rw [hv, hw] at hresult
      rw [hv] at hcalma
      rw [hw] at hcalmb
      dsimp only at hresult hcalma hcalmb ⊢
      subst hresult
      cases result' with
      | error cause => exact .inr ⟨_, _, _, _, rfl, rfl, .refl _⟩
      | ok _ =>
        obtain ⟨-, -, hherea, -, hfoldera⟩ := folder_absolute_of_ensurePath hdisk ht hv
        obtain ⟨-, -, hhereb, -, hfolderb⟩ :=
          folder_absolute_of_ensurePath h.wellFormed (h.direct hdisk ht) hw
        have hbase : b.disk.absolute p = a.disk.absolute p :=
          Disk.absolute_congr (by rw [hherea, hhereb, h.here]) p
        have hfree : ∀ token, b.disk.find? ((v.disk.destination p.trail).entry (stagingName name token)) =
            a.disk.find? ((v.disk.destination p.trail).entry (stagingName name token)) := by
          intro token
          have hoff := entry_not_way (v.disk.destination p.trail) (stagingName name token)
          have hkeptv := find?_ensurePath hdisk ht hoff
          have hkeptw := find?_ensurePath h.wellFormed (h.direct hdisk ht) (h.destination_eq.symm ▸ hoff)
          rw [hv] at hkeptv
          rw [hw, h.destination_eq] at hkeptw
          rw [hkeptv, hkeptw]
          exact h.apart _ hoff fun other hother =>
            ne_entry_of_hidden (isHidden_stagingName name token) (htaken other hother)
        rw [hbase, h.destination_eq] at hfolderb
        have halike :=
          createStaging_alike p plain hcalma hcalmb hfoldera hfolderb draw draw' hfree
        dsimp only
        rw [hbase]
        rcases halike with ⟨made, s, made', u, hmade, hmade'⟩ | ⟨fault, fault', hfault, hfault', halike⟩
        · have hcalmm := (createStaging_created plain hmade).makes.calm hcalma
          have hcalmm' := (createStaging_created plain (hbase.symm ▸ hmade')).makes.calm hcalmb
          rw [hmade, hmade']
          dsimp only
          rw [hcalmm.call_eq, hcalmm'.call_eq]
          exact .inl ⟨_, _, _, _, rfl, rfl⟩
        · rw [hfault, hfault']
          exact .inr ⟨_, _, _, _, rfl, rfl, halike⟩

/-! ### Taking a reply into the directory -/

/-- What becomes of an artifact that was started, when `there` stands under its name. -/
def Descriptor.verdict (d : Descriptor) (verify : Bool) (p : Path) (reply : Reply)
    (there : Option Entry) : Except SyncError Installed :=
  if reply.complete = false then .error (.download d.filename .interrupted)
  else match d.check verify reply.declared reply.body.length (.of reply.body) with
    | .error e => .error e
    | .ok () =>
      match p.obstacle? d.filename with
      | some cause => .error (.download d.filename (.file (.io (p.join d.filename) cause)))
      | none =>
        if there = some .directory then
          .error (.download d.filename (.file (.io (p.join d.filename) .isADirectory)))
        else .ok ⟨d.filename, p.join d.filename, reply.body.length, .of reply.body⟩

/-- What comes of committing a staged file where the disk grants all calls. -/
theorem Staged.Bound.commit_eq {dir : Location} {start : Disk} {log : List (String × Bytes)}
    (hcalm : v.Calm) (hs : s.Bound dir start p name) (h : Since dir start ⟨v.disk, some s.loc, log⟩)
    (hup : Step.up ∉ p.trail.steps) (hdir : start.destination p.trail = dir) :
    (s.commit v).2 =
      match p.obstacle? name with
      | some cause => .error (.io (p.join name) cause)
      | none =>
        if v.disk.find? (dir.entry name) = some .directory then
          .error (.io (p.join name) .isADirectory)
        else .ok (p.join name) := by
  obtain ⟨-, -, bytes, hfile⟩ := h.inFlight s.loc rfl
  have hdest : v.disk.destination p.trail = dir := (h.destination_eq _).trans hdir
  have hfolder : v.disk.folder p = .ok dir := by
    rw [← hdest]
    exact Disk.folder_eq h.wellFormed hup (hdest ▸ h.directory_of_inFlight rfl)
  have hplace := Volume.entryLocation_join_of_folder (proper_of_plain hs.plain) hfolder
  have hsettle : s.settle v = (v, .ok ()) := by
    obtain ⟨hsettled, hok⟩ := s.settle_cases v
    exact Prod.ext (hsettled.eq_of_calm (.refl v) hcalm) (hok.2 (hcalm.grants 3))
  unfold Staged.commit Volume.rename
  rw [hsettle]
  dsimp only
  rw [hs.entryLocation_eq h, hs.target, hplace, ← Location.entry]
  cases p.obstacle? name with
  | some cause => rfl
  | none =>
    simp only [hfile, hcalm.attempt_eq]
    cases hthere : v.disk.find? (dir.entry name) with
    | none => simp
    | some there => cases there <;> simp

/-- The result for an artifact that was started. -/
theorem promote_eq_verdict (hcalm : v.Calm) (hdisk : v.disk.WellFormed) (ht : v.disk.Direct p.trail)
    (hstage : v.stage draw p d.filename = (a, .ok s)) :
    (promote draw verify d p reply v).2 =
      d.verdict verify p reply (v.disk.find? ((v.disk.destination p.trail).entry d.filename)) := by
  have hstart : Since (v.disk.destination p.trail) v.disk ⟨v.disk, none, []⟩ := .refl hdisk
  obtain ⟨hreceived, hbound, -⟩ := receive_of_stage hstart ht rfl hstage reply
  have hsince := hreceived.since hstart
  obtain ⟨-, ⟨hidden, hloc, hhidden⟩, -⟩ := hsince.inFlight s.loc rfl
  have hcalmr := hreceived.calm hcalm
  have hcalma : a.Calm := (stage_ok hstart ht rfl hstage).1.calm hcalm
  have hthere : (s.receive a reply.pieces).1.inner.disk.find?
      ((v.disk.destination p.trail).entry d.filename) =
        v.disk.find? ((v.disk.destination p.trail).entry d.filename) := by
    have hflight : some s.loc ≠ some ((v.disk.destination p.trail).entry d.filename) := by
      rw [hloc]
      exact fun heq => ne_entry_of_hidden hhidden d.nameFault?_filename (Option.some.inj heq)
    rcases hsince.kept _ hflight (fun x hx => by cases hx) with hkept | ⟨hway, -⟩
    · exact hkept
    · exact absurd hway (entry_not_way _ _)
  have hcommit := Staged.Bound.commit_eq hcalmr hbound hsince ht.noUp rfl
  dsimp only at hcommit
  rw [promote_snd hstage, Staged.receive_of_calm hcalma, hcommit, hthere]
  dsimp only
  unfold Descriptor.verdict
  by_cases hcomplete : reply.complete = false
  · rw [if_pos hcomplete, if_pos hcomplete]
  · rw [if_neg hcomplete, if_neg hcomplete]
    cases d.check verify reply.declared reply.body.length (.of reply.body) with
    | error e => rfl
    | ok _ =>
      cases p.obstacle? d.filename with
      | some cause => rfl
      | none =>
        by_cases hdir : v.disk.find? ((v.disk.destination p.trail).entry d.filename) = some .directory
        · simp only [if_pos hdir]
        · simp only [if_neg hdir]

/-- **An artifact meets the same fate beside others.** -/
theorem promote_alike (hcalm : v.Calm) (hdisk : v.disk.WellFormed) (ht : v.disk.Direct p.trail)
    (h : v.Beside p taken w) (htaken : ∀ other ∈ taken, nameFault? other = none)
    (hname : d.filename ∉ taken) (draw draw' : Draw) (verify : Bool) (reply : Reply) :
    Alike d.filename (promote draw verify d p reply v).2 (promote draw' verify d p reply w).2 := by
  rcases stage_alike hcalm hdisk ht h d.nameFault?_filename draw draw' htaken with
    ⟨a, s, b, u, hv, hw⟩ | ⟨a, fault, b, fault', hv, hw, halike⟩
  · have hthere : w.disk.find? ((w.disk.destination p.trail).entry d.filename) =
        v.disk.find? ((v.disk.destination p.trail).entry d.filename) := by
      rw [h.destination_eq]
      exact h.apart _ (entry_not_way _ _) fun other hother heq =>
        hname (entry_injective heq ▸ hother)
    rw [promote_eq_verdict hcalm hdisk ht hv,
      promote_eq_verdict h.calm h.wellFormed (h.direct hdisk ht) hw, hthere]
    exact .refl _
  · unfold promote
    rw [hv, hw]
    exact .file halike

/-! ### What is left on the disk -/

/-- Everything happens after the path has been made. -/
theorem promote_of_made (hcalm : v.Calm) (hdisk : v.disk.WellFormed) (ht : v.disk.Direct p.trail)
    (hmade : v.ensurePath p = (a, .ok ())) :
    promote draw verify d p reply v = promote draw verify d p reply a := by
  obtain ⟨hdiska, hta, hhere, hdir, -⟩ := folder_absolute_of_ensurePath hdisk ht hmade
  have hcalma : a.Calm := by
    have hcalmed := calm_ensurePath hcalm hdisk ht
    rwa [hmade] at hcalmed
  have hp : p.bytes = [] ∨ p.Opens := by
    by_contra hp
    obtain ⟨cause, hrefused⟩ := Volume.ensurePath_of_refused hp
    rw [hrefused] at hmade
    cases hmade
  have hagain : a.ensurePath p = (a, .ok ()) :=
    Volume.ensurePath_of_directory hcalma hdiska hta hp ((Disk.destination_congr hhere p.trail).symm ▸ hdir)
  have hstage : v.stage draw p d.filename = a.stage draw p d.filename := by
    unfold Volume.stage
    rw [d.nameFault?_filename, hmade, hagain]
  unfold promote
  rw [hstage]

/-- How a promotion has led to the volume after it. -/
theorem promote_leads (hdisk : v.disk.WellFormed) (ht : v.disk.Direct p.trail) (draw : Draw)
    (verify : Bool) (d : Descriptor) (reply : Reply) :
    Leads (v.disk.destination p.trail) ⟨v, none, []⟩ ⟨(promote draw verify d p reply v).1, none,
      if (promote draw verify d p reply v).2.isOk then [(d.filename, reply.body)] else []⟩ := by
  have hstart : Since (v.disk.destination p.trail) v.disk ⟨v.disk, none, []⟩ := .refl hdisk
  cases hresult : promote draw verify d p reply v with
  | mk w result =>
    cases result with
    | error e => exact promote_error hstart ht rfl hresult
    | ok o => exact promote_ok hstart ht rfl hresult

theorem promote_since (hdisk : v.disk.WellFormed) (ht : v.disk.Direct p.trail) (draw : Draw)
    (verify : Bool) (d : Descriptor) (reply : Reply) :
    Since (v.disk.destination p.trail) v.disk ⟨(promote draw verify d p reply v).1.disk, none,
      if (promote draw verify d p reply v).2.isOk then [(d.filename, reply.body)] else []⟩ :=
  (promote_leads hdisk ht draw verify d reply).since (.refl hdisk)

theorem calm_promote (hcalm : v.Calm) (hdisk : v.disk.WellFormed) (ht : v.disk.Direct p.trail)
    (draw : Draw) (verify : Bool) (d : Descriptor) (reply : Reply) :
    (promote draw verify d p reply v).1.Calm :=
  (promote_leads hdisk ht draw verify d reply).calm hcalm

/-- **What a promotion leaves behind:** on the way what making the path leaves, the body under the
artifact's name if it is installed, and anything else as it was. -/
theorem find?_promote (hcalm : v.Calm) (hdisk : v.disk.WellFormed) (ht : v.disk.Direct p.trail) (draw : Draw)
    (verify : Bool) (d : Descriptor) (reply : Reply) (l : Location) :
    (promote draw verify d p reply v).1.disk.find? l =
      if l <+: v.disk.destination p.trail then (v.ensurePath p).1.disk.find? l
      else if l = (v.disk.destination p.trail).entry d.filename ∧
          (promote draw verify d p reply v).2.isOk = true then some (.file { bytes := reply.body })
      else v.disk.find? l := by
  by_cases hway : l <+: v.disk.destination p.trail
  · rw [if_pos hway]
    cases hmade : v.ensurePath p with
    | mk a result =>
      cases result with
      | error cause =>
        unfold promote Volume.stage
        rw [d.nameFault?_filename, hmade]
      | ok _ =>
        obtain ⟨hdiska, hta, hhere, hdir, -⟩ := folder_absolute_of_ensurePath hdisk ht hmade
        have hdest : a.disk.destination p.trail = v.disk.destination p.trail :=
          Disk.destination_congr hhere p.trail
        rw [promote_of_made hcalm hdisk ht hmade]
        have hsince := promote_since hdiska hta draw verify d reply
        rw [hdest] at hsince
        have hthere := hdiska.directory_on_way' hdir hway
        exact (hsince.directory hway hthere).trans hthere.symm
  · rw [if_neg hway]
    have hsince := promote_since hdisk ht draw verify d reply
    by_cases hok : (promote draw verify d p reply v).2.isOk = true
    · rw [if_pos hok] at hsince
      by_cases hl : l = (v.disk.destination p.trail).entry d.filename
      · rw [if_pos ⟨hl, hok⟩, hl]
        exact hsince.promoted _ _ List.lookup_cons_self
      · rw [if_neg fun h => hl h.1]
        have hother : ∀ x ∈ [(d.filename, reply.body)],
            l ≠ (v.disk.destination p.trail).entry x.1 := fun x hx => List.mem_singleton.1 hx ▸ hl
        rcases hsince.kept l (fun h => by cases h) hother with hkept | ⟨hway', -⟩
        · exact hkept
        · exact absurd hway' hway
    · rw [if_neg hok] at hsince
      rw [if_neg fun h => hok h.2]
      rcases hsince.kept l (fun h => by cases h) (fun x hx => by cases hx) with hkept | ⟨hway', -⟩
      · exact hkept
      · exact absurd hway' hway

/-- Beside others an artifact makes the difference that it makes at the start. -/
theorem promote_carries (hcalm : v.Calm) (hdisk : v.disk.WellFormed) (ht : v.disk.Direct p.trail)
    (h : v.Beside p taken w) (htaken : ∀ other ∈ taken, nameFault? other = none)
    (hname : d.filename ∉ taken) (draw draw' : Draw) (verify : Bool) (reply : Reply) :
    v.disk.Carries (promote draw verify d p reply v).1.disk w.disk
      (promote draw' verify d p reply w).1.disk := by
  have hview := find?_promote hcalm hdisk ht draw verify d reply
  have hview' := find?_promote h.calm h.wellFormed (h.direct hdisk ht) draw' verify d reply
  have hway := (Volume.ensurePath_between hcalm h.calm hdisk h.wellFormed h.here ht h.way).2
  have hok := (promote_alike hcalm hdisk ht h htaken hname draw draw' verify reply).isOk_iff
  have hentry : w.disk.find? ((v.disk.destination p.trail).entry d.filename) =
      v.disk.find? ((v.disk.destination p.trail).entry d.filename) :=
    h.apart _ (entry_not_way _ _) fun other hother heq => hname (entry_injective heq ▸ hother)
  rw [h.destination_eq] at hview'
  have hsince := promote_since h.wellFormed (h.direct hdisk ht) draw' verify d reply
  refine ⟨hsince.here, hsince.closed, fun l => ?_⟩
  rw [hview, hview']
  by_cases hl : l <+: v.disk.destination p.trail
  · rw [if_pos hl, if_pos hl]
    exact .inl ⟨hway l hl, h.way l hl⟩
  · rw [if_neg hl, if_neg hl]
    by_cases hthere : l = (v.disk.destination p.trail).entry d.filename ∧
        (promote draw verify d p reply v).2.isOk = true
    · rw [if_pos hthere, if_pos ⟨hthere.1, hok.1 hthere.2⟩]
      exact .inl ⟨rfl, .inl (hthere.1 ▸ hentry)⟩
    · rw [if_neg hthere, if_neg fun g => hthere ⟨g.1, hok.2 g.2⟩]
      exact .inr ⟨rfl, rfl⟩

/-- Then the next artifact finds itself beside one more. -/
theorem Volume.Beside.promote (hcalm : v.Calm) (hdisk : v.disk.WellFormed) (ht : v.disk.Direct p.trail)
    (h : v.Beside p taken w) (draw : Draw) (verify : Bool) (d : Descriptor) (reply : Reply) :
    v.Beside p (d.filename :: taken) (promote draw verify d p reply w).1 := by
  have hsince := promote_since h.wellFormed (h.direct hdisk ht) draw verify d reply
  have hview := find?_promote h.calm h.wellFormed (h.direct hdisk ht) draw verify d reply
  have hway := (Volume.ensurePath_between hcalm h.calm hdisk h.wellFormed h.here ht h.way).2
  rw [h.destination_eq] at hview
  refine ⟨calm_promote h.calm h.wellFormed (h.direct hdisk ht) draw verify d reply, hsince.wellFormed,
    hsince.here.trans h.here, fun l hl => .inr ?_, fun l hl hother => ?_⟩
  · rw [hview, if_pos hl]
    exact hway l hl
  · rw [hview, if_neg hl, if_neg fun g => hother _ List.mem_cons_self g.1]
    exact h.apart l hl fun name hname => hother name (List.mem_cons_of_mem _ hname)

/-! ### Installing -/

/-- What is done with the answer to the request for an artifact. -/
def deliver (draw : Draw) (verify : Bool) (d : Descriptor) (p : Path)
    (answer : Except RequestFault Reply) (v : Volume) : Volume × Except SyncError Installed :=
  match answer with
  | .error fault => (v, .error (.download d.filename (.request d.url.text fault)))
  | .ok reply =>
    if reply.status ≠ 200 then (v, .error (.download d.filename (.status reply.status)))
    else promote draw verify d p reply v

/-- An install is a request, and then what is done with its answer. -/
theorem install_eq (net : Network) (draw : Draw) (verify : Bool) (d : Descriptor) (p : Path)
    (s : Session) :
    install net draw verify d p s =
      ({ volume := (deliver draw verify d p (net.request s.asked d.url).2 s.volume).1
         asked := (net.request s.asked d.url).1 },
        (deliver draw verify d p (net.request s.asked d.url).2 s.volume).2) := by
  unfold install deliver
  cases net.request s.asked d.url with
  | mk asked answer =>
    cases answer with
    | error fault => rfl
    | ok reply =>
      dsimp only
      split_ifs <;> rfl

/-- **An install is the same beside others as at the start:** its result is the same up to the token of a
staging name, it makes the same difference, and the next artifact finds itself beside one more. -/
theorem deliver_beside (hcalm : v.Calm) (hdisk : v.disk.WellFormed) (ht : v.disk.Direct p.trail)
    (h : v.Beside p taken w) (htaken : ∀ other ∈ taken, nameFault? other = none)
    (hname : d.filename ∉ taken) (draw draw' : Draw) (verify : Bool)
    (answer : Except RequestFault Reply) :
    Alike d.filename (deliver draw verify d p answer v).2 (deliver draw' verify d p answer w).2 ∧
      v.disk.Carries (deliver draw verify d p answer v).1.disk w.disk
        (deliver draw' verify d p answer w).1.disk ∧
      v.Beside p (d.filename :: taken) (deliver draw' verify d p answer w).1 := by
  have hmore : v.Beside p (d.filename :: taken) w :=
    ⟨h.calm, h.wellFormed, h.here, h.way, fun l hl hother =>
      h.apart l hl fun name hname => hother name (List.mem_cons_of_mem _ hname)⟩
  cases answer with
  | error fault => exact ⟨.refl _, ⟨rfl, rfl, fun l => .inr ⟨rfl, rfl⟩⟩, hmore⟩
  | ok reply =>
    unfold deliver
    by_cases hstatus : reply.status ≠ 200
    · simp only [if_pos hstatus]
      exact ⟨.refl _, ⟨rfl, rfl, fun l => .inr ⟨rfl, rfl⟩⟩, hmore⟩
    · simp only [if_neg hstatus]
      exact ⟨promote_alike hcalm hdisk ht h htaken hname draw draw' verify reply,
        promote_carries hcalm hdisk ht h htaken hname draw draw' verify reply,
        h.promote hcalm hdisk ht draw' verify d reply⟩

end Beside

end FolderSync
