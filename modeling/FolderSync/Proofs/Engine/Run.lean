import FolderSync.Engine
import FolderSync.Proofs.Directory.Install
import FolderSync.Proofs.Network.Requests
import FolderSync.Proofs.Plan

/-!
# The run, artifact by artifact

A run surveys server and directory, then installs what is to be fetched (`run_eq`):
`Engine.installAll` gives the results one by one, and the report is their sum (`foldl_add`).

* `survey_eq_ok`: what a survey that succeeds has seen.
* `run_cases`: a run ends with its survey, or installs what the survey found.
* `installAll_leads`: installing artifacts one after the other only makes changes toward the
  directory, and promotes what is reported.
* `run_leads`: so does the whole run.
-/

namespace FolderSync

open Moment Progress

/-! ### Reports -/

/-- The error of a result. -/
def failure? : Except SyncError Installed → Option SyncError
  | .ok _ => none
  | .error e => some e

namespace Report

/-- A report takes its results in order. -/
theorem foldl_add (r : Report) (results : List (Except SyncError Installed)) :
    results.foldl add r =
      { r with installed := r.installed ++ results.filterMap Except.toOption
               errors := r.errors ++ results.filterMap failure? } := by
  induction results generalizing r with
  | nil => simp
  | cons result rest ih =>
    rw [List.foldl_cons, ih]
    cases result with
    | ok o =>
      rw [add, List.append_assoc]
      rfl
    | error e =>
      rw [add, List.append_assoc]
      rfl

end Report

namespace Engine

variable {e : Engine} {net : Network} {draw : Draw} {s t : Session} {r : Report} {m : Manifest}
  {p : Plan}

/-! ### Surveys -/

/-- A survey that succeeds has read the manifest and the directory. -/
theorem survey_eq_ok (h : e.survey net s = (t, .ok (m, p))) :
    t.volume = s.volume ∧ fetchManifest net s.asked e.config.baseUrl = (t.asked, .ok m) ∧
      ∃ inventory, s.volume.disk.scan e.config.filter e.config.targetDir = .ok inventory ∧
        p = Plan.between m inventory e.config.filter := by
  unfold survey at h
  split at h
  · cases h
  · rename_i asked fetched hfetch
    unfold planFor at h
    cases hscan : s.volume.disk.scan e.config.filter e.config.targetDir with
    | error fault => simp [hscan] at h
    | ok inventory =>
      simp only [hscan, Prod.mk.injEq, Except.ok.injEq] at h
      obtain ⟨rfl, rfl, rfl⟩ := h
      exact ⟨rfl, hfetch, inventory, rfl, rfl⟩

/-- A survey leaves the disk alone. -/
theorem volume_survey (e : Engine) (net : Network) (s : Session) :
    (e.survey net s).1.volume = s.volume := by
  unfold survey
  split
  · rfl
  · split <;> rfl

/-- The requests of a survey are those for the manifest. -/
theorem asked_survey (e : Engine) (net : Network) (s : Session) :
    (e.survey net s).1.asked = (fetchManifest net s.asked e.config.baseUrl).1 := by
  unfold survey
  split
  · rename_i hfetch
    rw [hfetch]
  · rename_i hfetch
    rw [hfetch]
    split <;> rfl

theorem prefix_survey (e : Engine) (net : Network) (s : Session) :
    s.asked <+: (e.survey net s).1.asked := by
  rw [asked_survey]
  exact prefix_fetchManifest net s.asked e.config.baseUrl

/-! ### Installing one after the other -/

/-- Installs the artifacts in turn and keeps the results. -/
def installAll (e : Engine) (net : Network) (draw : Draw) :
    Session → List Descriptor → Session × List (Except SyncError Installed)
  | s, [] => (s, [])
  | s, d :: rest =>
    let (t, result) := install net draw e.config.verifyIntegrity d e.config.targetDir s
    let (u, results) := e.installAll net draw t rest
    (u, result :: results)

theorem installAll_cons (e : Engine) (net : Network) (draw : Draw) (s : Session) (d : Descriptor)
    (rest : List Descriptor) :
    e.installAll net draw s (d :: rest) =
      let first := install net draw e.config.verifyIntegrity d e.config.targetDir s
      ((e.installAll net draw first.1 rest).1, first.2 :: (e.installAll net draw first.1 rest).2) :=
  rfl

theorem foldl_installNamed (r : Report) (names : List String) :
    names.foldl (e.installNamed net draw m) (s, r) =
      ((e.installAll net draw s (m.fetched names)).1,
        (e.installAll net draw s (m.fetched names)).2.foldl Report.add r) := by
  induction names generalizing s r with
  | nil => rfl
  | cons name rest ih =>
    rw [List.foldl_cons, installNamed, Manifest.fetched, List.filterMap_cons]
    cases hget : m.get? name with
    | none => exact ih r
    | some d =>
      dsimp only
      rw [ih, installAll_cons]
      rfl

/-- **A run is a survey, then the installs, then their sum.** -/
theorem run_eq (draw : Draw) (h : e.survey net s = (t, .ok (m, p))) :
    e.run net draw s =
      ((e.installAll net draw t (m.fetched p.actionable)).1,
        (e.installAll net draw t (m.fetched p.actionable)).2.foldl Report.add (e.opening p)) := by
  unfold run
  rw [h]
  exact foldl_installNamed _ _

theorem run_eq_failure (draw : Draw) {fault : SyncError}
    (h : e.survey net s = (t, .error fault)) :
    e.run net draw s = (t, .failure fault) := by
  unfold run
  rw [h]

/-- A run ends with its survey, or installs what the survey found. -/
theorem run_cases (h : e.run net draw s = (t, r)) :
    (∃ fault, e.survey net s = (t, .error fault) ∧ r = .failure fault) ∨
      ∃ u m p, e.survey net s = (u, .ok (m, p)) ∧
        t = (e.installAll net draw u (m.fetched p.actionable)).1 ∧
        r = (e.installAll net draw u (m.fetched p.actionable)).2.foldl Report.add (e.opening p) := by
  cases hsurvey : e.survey net s with
  | mk u result =>
    cases result with
    | error fault =>
      rw [run_eq_failure draw hsurvey] at h
      obtain ⟨rfl, rfl⟩ := Prod.mk.inj h
      exact .inl ⟨fault, rfl, rfl⟩
    | ok found =>
      rw [run_eq draw hsurvey] at h
      obtain ⟨rfl, rfl⟩ := Prod.mk.inj h
      exact .inr ⟨u, found.1, found.2, rfl, rfl, rfl⟩

/-- Every result is that of its artifact. -/
theorem names_installAll (e : Engine) (net : Network) (draw : Draw) (s : Session)
    (ds : List Descriptor) :
    List.Forall₂ (fun d result => Names d.filename result) ds (e.installAll net draw s ds).2 := by
  induction ds generalizing s with
  | nil => exact .nil
  | cons d rest ih =>
    have hnames := names_install net draw e.config.verifyIntegrity d e.config.targetDir s
    rw [installAll_cons]
    exact .cons hnames (ih _)

theorem prefix_installAll (e : Engine) (net : Network) (draw : Draw) (s : Session)
    (ds : List Descriptor) : s.asked <+: (e.installAll net draw s ds).1.asked := by
  induction ds generalizing s with
  | nil => exact List.prefix_rfl
  | cons d rest ih =>
    rw [installAll_cons]
    refine List.IsPrefix.trans ?_ (ih _)
    rw [asked_install]
    exact net.prefix_request s.asked d.url

/-- On a network without memory the requests are those of the artifacts, in turn. -/
theorem asked_installAll (h : net.Stateless) (s : Session) (ds : List Descriptor) :
    (e.installAll net draw s ds).1.asked = s.asked ++ ds.flatMap fun d => net.requests d.url := by
  induction ds generalizing s with
  | nil => simp [installAll]
  | cons d rest ih =>
    rw [installAll_cons, ih, asked_install, Network.request_eq h, List.flatMap_cons,
      List.append_assoc]

/-! ### What the installs do -/

/-- Where the engine's directory lies on a disk. -/
def target (e : Engine) (d : Disk) : Location := d.destination e.config.targetDir.trail

variable {dir : Location} {start : Disk} {log : List (String × Bytes)}

/-- **Installing artifacts in turn makes only changes toward the directory.** -/
theorem installAll_leads (net : Network) (draw : Draw) (ds : List Descriptor)
    (h : Since dir start ⟨s.volume.disk, none, log⟩)
    (hdirect : start.Direct e.config.targetDir.trail)
    (hdir : start.destination e.config.targetDir.trail = dir) :
    ∃ done : List Delivery,
      (e.installAll net draw s ds).2.filterMap Except.toOption = done.map Delivery.outcome ∧
      Leads dir ⟨s.volume, none, log⟩ ⟨(e.installAll net draw s ds).1.volume, none,
        (done.map Delivery.entry).reverse ++ log⟩ ∧
      (done.map Delivery.descriptor).Sublist ds ∧
      ∀ x ∈ done, ∃ earlier later, s.asked <+: earlier ∧
        later <+: (e.installAll net draw s ds).1.asked ∧
        x.Genuine net earlier later e.config.verifyIntegrity e.config.targetDir := by
  induction ds generalizing s log with
  | nil => exact ⟨[], rfl, .refl _, .slnil, fun x hx => by cases hx⟩
  | cons d rest ih =>
    cases hinstall : install net draw e.config.verifyIntegrity d e.config.targetDir s with
    | mk t result =>
      have hasked : s.asked <+: t.asked := by
        have hrequest := asked_install net draw e.config.verifyIntegrity d e.config.targetDir s
        rw [hinstall] at hrequest
        rw [hrequest]
        exact net.prefix_request s.asked d.url
      rw [installAll_cons, hinstall]
      dsimp only
      cases result with
      | error fault =>
        have hfirst := install_error h hdirect hdir hinstall
        obtain ⟨done, hdone, hleads, hsub, hgenuine⟩ := ih (hfirst.since h)
        refine ⟨done, hdone, hfirst.trans hleads, hsub.cons d, fun x hx => ?_⟩
        obtain ⟨earlier, later, hearlier, hlater, hx⟩ := hgenuine x hx
        exact ⟨earlier, later, hasked.trans hearlier, hlater, hx⟩
      | ok o =>
        obtain ⟨body, hbody, hfirst⟩ := install_ok h hdirect hdir hinstall
        obtain ⟨done, hdone, hleads, hsub, hgenuine⟩ := ih (hfirst.since h)
        refine ⟨⟨d, o, body⟩ :: done, ?_, ?_, hsub.cons_cons d, ?_⟩
        · rw [List.filterMap_cons, hdone]
          rfl
        · have hlog : ((⟨d, o, body⟩ :: done).map Delivery.entry).reverse ++ log =
              (done.map Delivery.entry).reverse ++ (d.filename, body) :: log := by
            rw [List.map_cons, List.reverse_cons, List.append_assoc]
            rfl
          rw [hlog]
          exact hfirst.trans hleads
        · intro x hx
          rcases List.mem_cons.1 hx with rfl | hx
          · exact ⟨s.asked, t.asked, List.prefix_rfl, prefix_installAll e net draw t rest, hbody⟩
          · obtain ⟨earlier, later, hearlier, hlater, hx⟩ := hgenuine x hx
            exact ⟨earlier, later, hasked.trans hearlier, hlater, hx⟩

/-- How a run from `s` with the report `r` has led to `t`, with the artifacts that were installed on
the way. -/
structure Effect (e : Engine) (net : Network) (s t : Session) (r : Report) (done : List Delivery) :
    Prop where
  installed : r.installed = done.map Delivery.outcome
  leads : Leads (e.target s.volume.disk) ⟨s.volume, none, []⟩
    ⟨t.volume, none, (done.map Delivery.entry).reverse⟩
  listed : ∀ x ∈ done, ∃ m, (fetchManifest net s.asked e.config.baseUrl).2 = .ok m ∧
    x.descriptor ∈ m.artifacts
  nodup : (done.map fun x => x.descriptor.filename).Nodup
  genuine : ∀ x ∈ done, ∃ earlier later, s.asked <+: earlier ∧ later <+: t.asked ∧
    x.Genuine net earlier later e.config.verifyIntegrity e.config.targetDir

/-- **A run makes only changes toward the directory, and promotes what it reports.** -/
theorem run_leads (hdisk : s.volume.disk.WellFormed)
    (hdirect : s.volume.disk.Direct e.config.targetDir.trail) (hrun : e.run net draw s = (t, r)) :
    ∃ done, e.Effect net s t r done := by
  have hsince : Since (e.target s.volume.disk) s.volume.disk ⟨s.volume.disk, none, []⟩ :=
    .refl hdisk
  have hvolume := volume_survey e net s
  have hasked := prefix_survey e net s
  rcases run_cases hrun with ⟨fault, hsurvey, rfl⟩ | ⟨u, m, p, hsurvey, rfl, rfl⟩ <;>
    rw [hsurvey] at hvolume hasked
  · refine ⟨[], rfl, ?_, fun x hx => (by cases hx), List.nodup_nil, fun x hx => (by cases hx)⟩
    rw [hvolume]
    exact .refl _
  · obtain ⟨-, hfetch, inventory, -, rfl⟩ := survey_eq_ok hsurvey
    rw [← hvolume] at hsince
    obtain ⟨done, hdone, hleads, hsub, hgenuine⟩ := installAll_leads net draw
      (m.fetched (Plan.between m inventory e.config.filter).actionable) hsince (hvolume ▸ hdirect) rfl
    have hnames := Plan.map_filename_fetched_actionable m inventory e.config.filter
    refine ⟨done, ?_, ?_, ?_, ?_, fun x hx => ?_⟩
    · rw [Report.foldl_add]
      exact hdone
    · rw [← hvolume]
      rwa [List.append_nil] at hleads
    · intro x hx
      exact ⟨m, by rw [hfetch], Manifest.mem_of_mem_fetched (hsub.subset (List.mem_map_of_mem hx))⟩
    · have hall := hsub.map Descriptor.filename
      rw [hnames, List.map_map] at hall
      exact hall.nodup (Plan.nodup_actionable m inventory e.config.filter)
    · obtain ⟨earlier, later, hearlier, hlater, hx⟩ := hgenuine x hx
      exact ⟨earlier, later, hasked.trans hearlier, hlater, hx⟩

/-! ### What is seen after a run -/

namespace Effect

variable {done : List Delivery} {x : Delivery}

theorem outcome_mem (h : e.Effect net s t r done) (hx : x ∈ done) : x.outcome ∈ r.installed := by
  rw [h.installed]
  exact List.mem_map_of_mem hx

theorem filename_outcome (h : e.Effect net s t r done) (hx : x ∈ done) :
    x.outcome.filename = x.descriptor.filename := by
  obtain ⟨_, _, _, _, hgenuine⟩ := h.genuine x hx
  exact hgenuine.filename

theorem verified (h : e.Effect net s t r done) (hverify : e.config.verifyIntegrity = true)
    (hx : x ∈ done) : ContentHash.of x.body = x.descriptor.hash := by
  obtain ⟨_, _, _, _, hgenuine⟩ := h.genuine x hx
  exact hgenuine.verified hverify

theorem opens (h : e.Effect net s t r done) (hx : x ∈ done) :
    (e.config.targetDir.join x.descriptor.filename).Opens := by
  obtain ⟨_, _, _, _, hgenuine⟩ := h.genuine x hx
  exact hgenuine.opens

/-- What was installed is listed in the manifest that the run was given. -/
theorem descriptor_mem (h : e.Effect net s t r done)
    (hm : (fetchManifest net s.asked e.config.baseUrl).2 = .ok m) (hx : x ∈ done) :
    x.descriptor ∈ m.artifacts := by
  obtain ⟨m', hm', hmem⟩ := h.listed x hx
  obtain rfl := Except.ok.inj (hm.symm.trans hm')
  exact hmem

theorem since (h : e.Effect net s t r done) (hdisk : s.volume.disk.WellFormed) :
    Since (e.target s.volume.disk) s.volume.disk
      ⟨t.volume.disk, none, (done.map Delivery.entry).reverse⟩ :=
  h.leads.since (.refl hdisk)

theorem wellFormed (h : e.Effect net s t r done) (hdisk : s.volume.disk.WellFormed) :
    t.volume.disk.WellFormed := (h.since hdisk).wellFormed

/-- The engine's directory stays where it is, and the way to it stays direct. -/
theorem target_eq (h : e.Effect net s t r done) (hdisk : s.volume.disk.WellFormed) :
    e.target t.volume.disk = e.target s.volume.disk := (h.since hdisk).destination_eq _

theorem direct (h : e.Effect net s t r done) (hdisk : s.volume.disk.WellFormed)
    (hdirect : s.volume.disk.Direct e.config.targetDir.trail) :
    t.volume.disk.Direct e.config.targetDir.trail := (h.since hdisk).direct hdirect List.prefix_rfl

/-- Under the name of an artifact that was installed stands its body. -/
theorem find?_entry (h : e.Effect net s t r done) (hdisk : s.volume.disk.WellFormed) (hx : x ∈ done) :
    t.volume.disk.find? ((e.target s.volume.disk).entry x.descriptor.filename) =
      some (.file { bytes := x.body }) := by
  refine (h.since hdisk).promoted _ _ (lookup_of_mem ?_ ?_)
  · have hnames : (done.map Delivery.entry).map Prod.fst =
        done.map fun x => x.descriptor.filename := by
      rw [List.map_map]
      rfl
    rw [List.map_reverse, List.nodup_reverse, hnames]
    exact h.nodup
  · exact List.mem_reverse.2 (List.mem_map_of_mem (f := Delivery.entry) hx)

/-- What has no name of an artifact that was installed is as it was. -/
theorem keptAt (h : e.Effect net s t r done) (hdisk : s.volume.disk.WellFormed) {loc : Location}
    (hloc : ∀ x ∈ done, loc ≠ (e.target s.volume.disk).entry x.descriptor.filename) :
    KeptAt (e.target s.volume.disk) s.volume.disk t.volume.disk loc := by
  refine (h.since hdisk).kept loc (by simp) fun y hy => ?_
  obtain ⟨x, hx, rfl⟩ := List.mem_map.1 (List.mem_reverse.1 hy)
  exact hloc x hx

end Effect

end Engine

/-! ### A small server -/

/-- An engine that keeps `/mods` in line with a server on this machine. -/
def Engine.sample : Engine where
  config := { baseUrl := "http://[::1]", targetDir := .ofText "/mods" }
  usable := by decide +kernel

/-- A server with one artifact. -/
def Network.sample : Network :=
  .ofRoutes true [
    { url := "http://[::1]/api/mods-manifest"
      body := utf8 ("\x7b\"success\":true,\"mods\":[[\"blockcraft-a.jar\","
        ++ "\"a9993e364706816aba3e25717850c26c9cd0d89d\",\"http://[::1]/a\"]]\x7d") },
    { url := "http://[::1]/a", body := utf8 "abc" }]

/-- A directory with an outdated artifact and a file of one's own. -/
def Session.sample : Session where
  volume := { disk := { entries := [
    ([utf8 "mods"], .directory),
    ([utf8 "mods", utf8 "blockcraft-a.jar"], .file { bytes := utf8 "ab" }),
    ([utf8 "mods", utf8 "notes.txt"], .file { bytes := utf8 "mine" })] } }

/-- The token that is always drawn first. -/
def Draw.sample : Draw := fun _ => .ofNat 0

theorem Network.stateless_sample : Network.sample.Stateless := fun _ _ _ => rfl

theorem Session.wellFormed_sample : Session.sample.volume.disk.WellFormed := by decide +kernel

theorem Session.isLinkFree_sample : Session.sample.volume.disk.isLinkFree = true := by
  decide +kernel

theorem Session.direct_sample :
    Session.sample.volume.disk.Direct Engine.sample.config.targetDir.trail :=
  .of_isLinkFree isLinkFree_sample (by decide +kernel)

end FolderSync
