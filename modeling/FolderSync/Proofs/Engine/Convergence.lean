import FolderSync.Proofs.Engine.Accounting
import FolderSync.Proofs.Inventory

/-!
# Success means convergence

On a network without memory, a verified run succeeds just if a plan made right after it finds
nothing to do, and then a second run does nothing (`success_converges`).

* `Effect.get?_of_installed`, `Effect.get?_of_kept`: what the next scan finds.
* `settled_of_success`, `success_of_settled`: the two directions.
-/

namespace FolderSync.Engine

open Moment Progress

variable {e : Engine} {net : Network} {draw : Draw} {s t : Session} {r : Report} {m : Manifest}
  {p : Plan} {done : List Delivery} {inventory later : Inventory}

/-! ### Results and names -/

/-- Without a failure, the results name all artifacts. -/
theorem map_filename_results {ds : List Descriptor} {results : List (Except SyncError Installed)}
    (h : List.Forall₂ (fun d result => Names d.filename result) ds results)
    (hno : results.filterMap failure? = []) :
    (results.filterMap Except.toOption).map Installed.filename = ds.map Descriptor.filename := by
  induction h with
  | nil => rfl
  | cons hnames _ ih =>
    cases hnames with
    | installed hname =>
      have hrest := ih hno
      rw [List.map_cons, ← hrest, ← hname]
      rfl
    | failed => cases hno

theorem sublist_filename_results {ds : List Descriptor}
    {results : List (Except SyncError Installed)}
    (h : List.Forall₂ (fun d result => Names d.filename result) ds results) :
    ((results.filterMap Except.toOption).map Installed.filename).Sublist
      (ds.map Descriptor.filename) := by
  induction h with
  | nil => exact .slnil
  | cons hnames _ ih =>
    cases hnames with
    | installed hname =>
      rw [List.map_cons, ← hname]
      exact ih.cons_cons _
    | failed => exact ih.cons _

/-- With a failure, an artifact is not among the successes. -/
theorem exists_not_mem_results {ds : List Descriptor} {results : List (Except SyncError Installed)}
    (h : List.Forall₂ (fun d result => Names d.filename result) ds results)
    (hnodup : (ds.map Descriptor.filename).Nodup) (hfailure : results.filterMap failure? ≠ []) :
    ∃ d ∈ ds, d.filename ∉ (results.filterMap Except.toOption).map Installed.filename := by
  induction h with
  | nil => exact absurd rfl hfailure
  | @cons d result ds results hnames hrest ih =>
    obtain ⟨hd, hnodup⟩ := List.nodup_cons.1 hnodup
    cases hnames with
    | installed hname =>
      obtain ⟨c, hc, hnot⟩ := ih hnodup hfailure
      refine ⟨c, List.mem_cons_of_mem _ hc, ?_⟩
      rw [List.filterMap_cons]
      intro hmem
      rcases List.mem_cons.1 hmem with heq | hmem
      · exact hd (hname ▸ heq ▸ List.mem_map_of_mem hc)
      · exact hnot hmem
    | failed =>
      exact ⟨d, List.mem_cons_self, fun hmem => hd ((sublist_filename_results hrest).subset hmem)⟩

/-! ### The next scan -/

/-- What is installed was to be installed or updated. -/
theorem fate_of_installed (hrun : e.run net draw s = (t, r)) {o : Installed} (ho : o ∈ r.installed) :
    ∃ m inventory, (fetchManifest net s.asked e.config.baseUrl).2 = .ok m ∧
      s.volume.disk.scan e.config.filter e.config.targetDir = .ok inventory ∧
      ∃ d ∈ m.artifacts, d.filename = o.filename ∧
        (fate inventory e.config.filter d = .install ∨ fate inventory e.config.filter d = .update) := by
  rcases run_cases hrun with ⟨fault, -, rfl⟩ | ⟨u, m, p, hsurvey, -, rfl⟩
  · cases ho
  · obtain ⟨-, hfetch, inventory, hscan, rfl⟩ := survey_eq_ok hsurvey
    rw [Report.foldl_add] at ho
    have hmem := (sublist_filename_results (names_installAll e net draw u _)).subset
      (List.mem_map_of_mem (f := Installed.filename) ho)
    obtain ⟨d, hd, hname⟩ := List.mem_map.1 hmem
    obtain ⟨hin, hfate⟩ := Plan.mem_fetched_actionable_iff.1 hd
    exact ⟨m, inventory, by rw [hfetch], hscan, d, hin, hname, hfate⟩

/-- Only what the filter accepts is installed. -/
theorem matches_of_installed (hrun : e.run net draw s = (t, r)) {o : Installed}
    (ho : o ∈ r.installed) : e.config.filter.Matches o.filename := by
  obtain ⟨m, inventory, -, -, d, -, hname, hfate⟩ := fate_of_installed hrun ho
  rw [← hname]
  by_contra hno
  have hskip : fate inventory e.config.filter d = .skip := fate_eq_skip_iff.2 hno
  rw [hskip] at hfate
  rcases hfate with hfate | hfate <;> cases hfate

/-- A run without errors has seen a manifest that the filter accepts as a whole, and has installed
all that was to be fetched. -/
theorem exists_of_success (hrun : e.run net draw s = (t, r)) (hsuccess : r.errors = []) :
    ∃ m inventory, (fetchManifest net s.asked e.config.baseUrl).2 = .ok m ∧
      s.volume.disk.scan e.config.filter e.config.targetDir = .ok inventory ∧
      (∀ d ∈ m.artifacts, e.config.filter.Matches d.filename) ∧
      r.installed.map Installed.filename =
        (Plan.between m inventory e.config.filter).actionable := by
  rcases run_cases hrun with ⟨fault, -, rfl⟩ | ⟨u, m, p, hsurvey, -, rfl⟩
  · cases hsuccess
  · obtain ⟨-, hfetch, inventory, hscan, rfl⟩ := survey_eq_ok hsurvey
    rw [Report.foldl_add] at hsuccess ⊢
    obtain ⟨hskipped, hfailures⟩ := List.append_eq_nil_iff.1 hsuccess
    have hall := Plan.names_skipped_eq_nil_iff.1 (List.map_eq_nil_iff.1 hskipped)
    refine ⟨m, inventory, by rw [hfetch], hscan, hall, ?_⟩
    have hinstalled := map_filename_results (names_installAll e net draw u _) hfailures
    rw [Plan.map_filename_fetched_actionable] at hinstalled
    exact hinstalled

/-- What a scan of the engine's directory finds under a name where no link stands. -/
theorem get?_scan_iff {d : Disk} (hdisk : d.WellFormed) (hdirect : d.Direct e.config.targetDir.trail)
    (htarget : e.config.targetDir.bytes ≠ [])
    (hscan : d.scan e.config.filter e.config.targetDir = .ok inventory) {name : String}
    (plain : nameFault? name = none)
    (hlink : ∀ target, d.find? ((e.target d).entry name) ≠ some (.link target))
    {hash : ContentHash} : inventory.get? name = some hash ↔
      e.config.filter.Matches name ∧ (e.config.targetDir.join name).Opens ∧
        ∃ bytes, d.find? ((e.target d).entry name) = some (.file { bytes }) ∧ hash = .of bytes :=
  Disk.scan_get?_iff hdisk hdirect htarget hscan plain hlink

namespace Effect

/-- The next scan finds the body of an artifact that was installed. -/
theorem get?_of_installed (h : e.Effect net s t r done) (hdisk : s.volume.disk.WellFormed)
    (hdirect : s.volume.disk.Direct e.config.targetDir.trail) (htarget : e.config.targetDir.bytes ≠ [])
    (hscan : t.volume.disk.scan e.config.filter e.config.targetDir = .ok later) {x : Delivery}
    (hx : x ∈ done) (hmatch : e.config.filter.Matches x.descriptor.filename) :
    later.get? x.descriptor.filename = some (.of x.body) := by
  have hfile := h.find?_entry hdisk hx
  rw [← h.target_eq hdisk] at hfile
  refine (get?_scan_iff (h.wellFormed hdisk) (h.direct hdisk hdirect) htarget hscan
    x.descriptor.nameFault?_filename ?_).2 ⟨hmatch, h.opens hx, x.body, hfile, rfl⟩
  intro target hlink
  exact absurd (hfile.symm.trans hlink) (by simp)

/-- The next scan finds what the last one found under any other name. -/
theorem get?_of_kept (h : e.Effect net s t r done) (hdisk : s.volume.disk.WellFormed)
    (hdirect : s.volume.disk.Direct e.config.targetDir.trail) (htarget : e.config.targetDir.bytes ≠ [])
    (hscan : s.volume.disk.scan e.config.filter e.config.targetDir = .ok inventory)
    (hlater : t.volume.disk.scan e.config.filter e.config.targetDir = .ok later) {name : String}
    (plain : nameFault? name = none) (hname : ∀ x ∈ done, name ≠ x.descriptor.filename)
    (hlink : ∀ target,
      s.volume.disk.find? ((e.target s.volume.disk).entry name) ≠ some (.link target)) :
    later.get? name = inventory.get? name := by
  have hsame : t.volume.disk.find? ((e.target t.volume.disk).entry name) =
      s.volume.disk.find? ((e.target s.volume.disk).entry name) := by
    rw [h.target_eq hdisk]
    rcases h.keptAt hdisk fun x hx heq => hname x hx (entry_injective heq) with hkept | ⟨hway, -, -⟩
    · exact hkept
    · exact absurd hway (not_prefix_of_child _ _)
  refine Option.ext fun hash => ?_
  rw [get?_scan_iff hdisk hdirect htarget hscan plain hlink,
    get?_scan_iff (h.wellFormed hdisk) (h.direct hdisk hdirect) htarget hlater plain
      (by rw [hsame]; exact hlink), hsame]

/-- The report names the artifacts that were installed. -/
theorem map_filename (h : e.Effect net s t r done) :
    r.installed.map Installed.filename = done.map fun x => x.descriptor.filename := by
  rw [h.installed, List.map_map]
  exact List.map_congr_left fun x hx => h.filename_outcome hx

/-- What was installed has a name that the filter accepts. -/
theorem matches_filename (h : e.Effect net s t r done) (hrun : e.run net draw s = (t, r))
    {x : Delivery} (hx : x ∈ done) : e.config.filter.Matches x.descriptor.filename :=
  h.filename_outcome hx ▸ matches_of_installed hrun (h.outcome_mem hx)

end Effect

/-! ### Surveys again -/

/-- Without memory, the same disk and server give the same survey. -/
theorem survey_congr (hnet : net.Stateless) (hvolume : t.volume = s.volume) :
    (e.survey net t).2 = (e.survey net s).2 := by
  unfold survey
  rw [fetchManifest_eq hnet t.asked, fetchManifest_eq hnet s.asked, hvolume]
  cases (fetchManifest net [] e.config.baseUrl).2 with
  | error fault => rfl
  | ok m =>
    dsimp only
    cases e.planFor m s.volume.disk <;> rfl

/-- Without memory, the manifest is the same every time. -/
theorem manifest_unique {earlier earlier' : List String} {m' : Manifest} (hnet : net.Stateless)
    (h : (fetchManifest net earlier e.config.baseUrl).2 = .ok m)
    (h' : (fetchManifest net earlier' e.config.baseUrl).2 = .ok m') : m' = m := by
  rw [fetchManifest_eq hnet] at h h'
  exact Except.ok.inj (h'.symm.trans h)

/-- A run after a survey that finds nothing to do does nothing. -/
theorem run_of_settled (h : e.survey net s = (t, .ok (m, p))) (hsettled : p.Settled) :
    e.run net draw s = (t, { upToDate := m.size }) := by
  obtain ⟨-, -, inventory, -, rfl⟩ := survey_eq_ok h
  rw [run_eq draw h, hsettled.actionable]
  show (t, e.opening (Plan.between m inventory e.config.filter)) = _
  rw [opening, hsettled.size_upToDate, hsettled.skipped]
  rfl

theorem installed_eq_results {ds : List Descriptor} {results : List (Except SyncError Installed)}
    (h : e.Follows net draw s p m ds results) (hrun : e.run net draw s = (t, r)) :
    r.installed = results.filterMap Except.toOption := by
  have hreport := h.report
  rw [hrun] at hreport
  exact congrArg Report.installed hreport

/-- The errors of a run are the names outside the filter and the failed installs. -/
theorem errors_eq_nil_iff {ds : List Descriptor} {results : List (Except SyncError Installed)}
    (h : e.Follows net draw s p m ds results) (hrun : e.run net draw s = (t, r)) :
    r.errors = [] ↔ p.skipped.names = [] ∧ results.filterMap failure? = [] := by
  have hreport := h.report
  rw [hrun] at hreport
  have herrors := congrArg Report.errors hreport
  dsimp only at herrors
  rw [herrors, List.append_eq_nil_iff, List.map_eq_nil_iff]

/-! ### Both directions -/

section Converging

variable (hnet : net.Stateless) (hdisk : s.volume.disk.WellFormed)
  (htarget : e.config.targetDir.bytes ≠ [])
  (hdirect : s.volume.disk.Direct e.config.targetDir.trail)
  (hlink : ∀ m, (fetchManifest net s.asked e.config.baseUrl).2 = .ok m → ∀ d ∈ m.artifacts,
    ∀ target,
      s.volume.disk.find? ((e.target s.volume.disk).entry d.filename) ≠ some (.link target))
  (hrun : e.run net draw s = (t, r))

include hnet hdisk htarget hdirect hlink hrun

omit hnet in
/-- After a run without errors there is nothing to do. -/
theorem settled_of_success (hverify : e.config.verifyIntegrity = true) (hsuccess : r.errors = []) :
    ∃ m later, (fetchManifest net s.asked e.config.baseUrl).2 = .ok m ∧
      t.volume.disk.scan e.config.filter e.config.targetDir = .ok later ∧
      (Plan.between m later e.config.filter).Settled := by
  obtain ⟨m, inventory, hm, hscan, hall, hnames⟩ := exists_of_success hrun hsuccess
  obtain ⟨done, heffect⟩ := run_leads hdisk hdirect hrun
  obtain ⟨later, hlater⟩ := (heffect.since hdisk).exists_scan hdisk hdirect hscan
  refine ⟨m, later, hm, hlater, Plan.settled_between_iff.2 fun d hd => ?_⟩
  refine fate_eq_keep_iff.2 ⟨hall d hd, ?_⟩
  by_cases hin : ∃ x ∈ done, x.descriptor.filename = d.filename
  · obtain ⟨x, hx, hxd⟩ := hin
    obtain rfl := Manifest.eq_of_filename_eq (heffect.descriptor_mem hm hx) hd hxd
    rw [heffect.get?_of_installed hdisk hdirect htarget hlater hx (hall _ hd),
      heffect.verified hverify hx]
  · -- what was not installed was not to be fetched
    have hkeep : fate inventory e.config.filter d = .keep := by
      refine Plan.fate_eq_keep_of_not_mem hd (hall d hd) ?_
      rw [← hnames, heffect.map_filename]
      exact fun hmem => hin (List.mem_map.1 hmem)
    have hapart : ∀ x ∈ done, d.filename ≠ x.descriptor.filename := fun x hx heq =>
      hin ⟨x, hx, heq.symm⟩
    rw [heffect.get?_of_kept hdisk hdirect htarget hscan hlater d.nameFault?_filename hapart
      (hlink m hm d hd)]
    exact (fate_eq_keep_iff.1 hkeep).2

/-- If there is nothing to do after a run, it had no errors. -/
theorem success_of_settled (hplan : (e.plan net t).2 = .ok p) (hsettled : p.Settled) :
    r.errors = [] := by
  obtain ⟨v, m', hagain⟩ := plan_eq_ok hplan
  rcases run_cases hrun with ⟨fault, hsurvey, -⟩ | ⟨u, m, q, hsurvey, -, -⟩
  · -- a run that fails at once leaves everything as it is, so it fails again
    have hvolume := volume_survey e net s
    rw [hsurvey] at hvolume
    have hsame := survey_congr (e := e) hnet hvolume
    rw [hagain, hsurvey] at hsame
    cases hsame
  · have hfollows := follows_of_survey hnet draw hsurvey
    obtain ⟨done, heffect⟩ := run_leads hdisk hdirect hrun
    obtain ⟨-, hfetch, inventory, hscan, rfl⟩ := survey_eq_ok hsurvey
    obtain ⟨-, hfetch', later, hlater, rfl⟩ := survey_eq_ok hagain
    have hm : (fetchManifest net s.asked e.config.baseUrl).2 = .ok m := by rw [hfetch]
    obtain rfl := manifest_unique (e := e) hnet hm (by rw [hfetch'])
    have hkeep := Plan.settled_between_iff.1 hsettled
    refine (errors_eq_nil_iff hfollows hrun).2 ⟨?_, ?_⟩
    · exact Plan.names_skipped_eq_nil_iff.2 fun d hd => (fate_eq_keep_iff.1 (hkeep d hd)).1
    · by_contra hfailure
      have hnodup := hfollows.names ▸ hfollows.nodup
      obtain ⟨d, hd, hnot⟩ := exists_not_mem_results hfollows.reported hnodup hfailure
      obtain ⟨hmem, hfate⟩ := Plan.mem_fetched_actionable_iff.1 hd
      rw [← installed_eq_results hfollows hrun, heffect.map_filename] at hnot
      have hapart : ∀ x ∈ done, d.filename ≠ x.descriptor.filename := fun x hx heq =>
        hnot (List.mem_map.2 ⟨x, hx, heq.symm⟩)
      have hsame := fate_congr (f := e.config.filter) (heffect.get?_of_kept hdisk hdirect htarget
        hscan hlater d.nameFault?_filename hapart (hlink _ hm d hmem))
      rw [hkeep d hmem] at hsame
      rw [← hsame] at hfate
      rcases hfate with hfate | hfate <;> cases hfate

end Converging

/-! ### The exit code -/

/-- A command line that synchronizes exits with zero just if the run succeeds. -/
theorem code_eq_zero_iff {env : Environment} {arguments : List String}
    {i : CommandLine.Invocation} (hread : CommandLine.readArguments env arguments = .ok i)
    (hcommand : i.command = some (.sync false))
    (hconfig : Config.resolve env.home env.configHome s.volume.disk i.overrides = .ok e.config)
    (hrun : e.run net draw s = (t, r)) :
    (CommandLine.run env net draw arguments s).2.code = 0 ↔ r.IsSuccess := by
  have hsync : ∀ painting, ∃ output,
      CommandLine.sync painting net draw false e.config s =
        (t, output, if r.IsSuccess then none else some (.unfinished r.errors.length)) := by
    intro painting
    unfold CommandLine.sync
    simp only [ofConfig_config, hrun, Bool.false_eq_true, if_false]
    exact ⟨_, rfl⟩
  obtain ⟨output, hsync⟩ := hsync (CommandLine.isPainting env)
  have hfollow : CommandLine.follow env net draw i s =
      (t, output, if r.IsSuccess then none else some (.unfinished r.errors.length)) := by
    unfold CommandLine.follow
    simp only [hcommand, hconfig, hsync]
  unfold CommandLine.run
  simp only [hread, hfollow]
  by_cases h : r.IsSuccess
  · simp [h]
  · simp [h]

/-! ### Convergence -/

/-- Success is the same as having nothing left to do, and from then on nothing happens. -/
structure Converges (e : Engine) (net : Network) (draw : Draw) (s : Session) : Prop where
  success : (e.run net draw s).2.IsSuccess ↔
    ∃ p, (e.plan net (e.run net draw s).1).2 = .ok p ∧ p.Settled
  /-- The exit code of a command line that leads to this run. -/
  code : ∀ env arguments i, CommandLine.readArguments env arguments = .ok i →
    i.command = some (.sync false) →
    Config.resolve env.home env.configHome s.volume.disk i.overrides = .ok e.config →
    ((CommandLine.run env net draw arguments s).2.code = 0 ↔ (e.run net draw s).2.IsSuccess)
  /-- A second run asks for the manifest, and that is all. -/
  again : (e.run net draw s).2.IsSuccess → ∃ m,
    (fetchManifest net s.asked e.config.baseUrl).2 = .ok m ∧
    ∀ later, e.run net later (e.run net draw s).1 =
      ({ (e.run net draw s).1 with
          asked := (e.run net draw s).1.asked ++ manifestRequests net e.config.baseUrl },
        { upToDate := m.size })

/-- **A verified run succeeds just if it converges.** -/
theorem success_converges (hnet : net.Stateless) (e : Engine) (draw : Draw) (s : Session)
    (hverify : e.config.verifyIntegrity = true) (htarget : e.config.targetDir.bytes ≠ [])
    (hdisk : s.volume.disk.WellFormed) (hdirect : s.volume.disk.Direct e.config.targetDir.trail)
    (hlink : ∀ m, (fetchManifest net s.asked e.config.baseUrl).2 = .ok m → ∀ d ∈ m.artifacts,
      ∀ target,
        s.volume.disk.find? ((e.target s.volume.disk).entry d.filename) ≠ some (.link target)) :
    e.Converges net draw s := by
  cases hrun : e.run net draw s with
  | mk t r =>
    have hsurvey : r.errors = [] → ∃ m p, (fetchManifest net s.asked e.config.baseUrl).2 = .ok m ∧
        e.survey net t = ({ t with asked := t.asked ++ manifestRequests net e.config.baseUrl },
          .ok (m, p)) ∧ p.Settled := by
      intro hsuccess
      obtain ⟨m, later, hm, hscan, hsettled⟩ :=
        settled_of_success hdisk htarget hdirect hlink hrun hverify hsuccess
      refine ⟨m, _, hm, ?_, hsettled⟩
      have hagain : (e.survey net t).2 = .ok (m, Plan.between m later e.config.filter) := by
        rw [fetchManifest_eq hnet] at hm
        unfold survey planFor
        rw [fetchManifest_eq hnet, hm, hscan]
      exact Prod.ext (fst_survey hnet e t) hagain
    refine ⟨?_, ?_, ?_⟩
    · rw [hrun]
      constructor
      · intro hsuccess
        obtain ⟨m, p, -, hagain, hsettled⟩ := hsurvey hsuccess
        exact ⟨p, by rw [plan_of_survey hagain]; rfl, hsettled⟩
      · rintro ⟨p, hplan, hsettled⟩
        exact success_of_settled hnet hdisk htarget hdirect hlink hrun hplan hsettled
    · rw [hrun]
      exact fun env arguments i hread hcommand hconfig =>
        code_eq_zero_iff hread hcommand hconfig hrun
    · rw [hrun]
      intro hsuccess
      obtain ⟨m, p, hm, hagain, hsettled⟩ := hsurvey hsuccess
      exact ⟨m, hm, fun later => run_of_settled hagain hsettled⟩

theorem success_converges_sample : Network.sample.Stateless ∧
    sample.config.targetDir.bytes ≠ [] ∧ Session.sample.volume.disk.WellFormed ∧
    Session.sample.volume.disk.Direct sample.config.targetDir.trail ∧
    sample.Converges .sample .sample .sample := by
  have htarget : sample.config.targetDir.bytes ≠ [] := by decide +kernel
  exact ⟨Network.stateless_sample, htarget, Session.wellFormed_sample, Session.direct_sample,
    success_converges Network.stateless_sample _ _ _ rfl htarget Session.wellFormed_sample
      Session.direct_sample fun _ _ _ _ target =>
        Disk.find?_ne_link Session.isLinkFree_sample _ target⟩

end FolderSync.Engine
