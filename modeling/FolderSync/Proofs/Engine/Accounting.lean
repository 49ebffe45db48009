import FolderSync.CommandLine.Run
import FolderSync.Proofs.Engine.Run

/-!
# A run does what the plan says

On a network whose replies depend on nothing but the address requested, `Engine.plan` and
`Engine.run` from one state see the same manifest and the same directory.

* `Engine.Follows`: the run requests what the plan names, in order, and its report accounts for
  every name once.
* `Engine.Agrees`: the plan makes no change, a plan that fails is a run that fails in the same way,
  and a plan that succeeds is followed (`run_agrees_with_plan`).
-/

namespace FolderSync.Engine

variable {e : Engine} {net : Network} {draw : Draw} {s t : Session} {m : Manifest} {p : Plan}

/-! ### Counting results -/

/-- Every result is either a success or a failure. -/
theorem length_filterMap_results (results : List (Except SyncError Installed)) :
    (results.filterMap Except.toOption).length + (results.filterMap failure?).length =
      results.length := by
  induction results with
  | nil => rfl
  | cons result rest ih =>
    cases result with
    | ok o =>
      rw [List.filterMap_cons, List.filterMap_cons]
      simp only [Except.toOption, failure?, List.length_cons]
      omega
    | error fault =>
      rw [List.filterMap_cons, List.filterMap_cons]
      simp only [Except.toOption, failure?, List.length_cons]
      omega

/-! ### Plans and surveys -/

theorem ofConfig_config (e : Engine) : ofConfig e.config = .ok e := by
  have husable : e.config.fault? = none := e.usable
  unfold ofConfig
  split
  · rfl
  · rename_i fault hfault
    rw [husable] at hfault
    cases hfault

theorem plan_eq_ok (h : (e.plan net s).2 = .ok p) : ∃ t m, e.survey net s = (t, .ok (m, p)) := by
  unfold plan at h
  split at h
  · cases h
  · rename_i t m q hsurvey
    obtain rfl := Except.ok.inj h
    exact ⟨t, m, hsurvey⟩

/-- A plan is what a survey finds, without the manifest. -/
theorem plan_of_survey {result : Except SyncError (Manifest × Plan)}
    (h : e.survey net s = (t, result)) : e.plan net s = (t, result.map Prod.snd) := by
  unfold plan
  rw [h]
  cases result <;> rfl

/-- Without memory, a survey asks for the manifest and changes nothing. -/
theorem fst_survey (hnet : net.Stateless) (e : Engine) (s : Session) :
    (e.survey net s).1 =
      { s with asked := s.asked ++ manifestRequests net e.config.baseUrl } := by
  have hvolume := volume_survey e net s
  have hasked := asked_survey e net s
  rw [fetchManifest_eq hnet] at hasked
  exact Session.ext hvolume hasked

/-! ### Following a plan -/

/-- How a run follows a plan of a manifest: `ds` are the artifacts that are fetched, `results` what
became of them. -/
structure Follows (e : Engine) (net : Network) (draw : Draw) (s : Session) (p : Plan) (m : Manifest)
    (ds : List Descriptor) (results : List (Except SyncError Installed)) : Prop where
  listed : ∀ d ∈ ds, d ∈ m.artifacts
  names : ds.map Descriptor.filename = p.toInstall.names ++ p.toUpdate.names
  ascending : p.toInstall.names.Pairwise byteLt ∧ p.toUpdate.names.Pairwise byteLt ∧
    p.skipped.names.Pairwise byteLt
  nodup : (p.toInstall.names ++ p.toUpdate.names).Nodup
  /-- A success is reported under the artifact's name, and a failure is a failed download or
  integrity check under it. -/
  reported : List.Forall₂ (fun d result => Names d.filename result) ds results
  asked : (e.run net draw s).1.asked = s.asked ++ manifestRequests net e.config.baseUrl ++
    ds.flatMap fun d => net.requests d.url
  /-- An artifact's address is requested once; only its redirects lead to other requests. -/
  requested : ∀ d ∈ ds, d.url.isRequestable = true → net.connects d.url = true →
    ∃ redirects, net.requests d.url = d.url.requestText :: redirects ∧
      (redirects ≠ [] → ∃ r target, net.reply? [] d.url.requestText = some r ∧
        net.redirect? d.url r = some target)
  report : (e.run net draw s).2 = {
    installed := results.filterMap Except.toOption
    upToDate := p.upToDate.size
    skipped := p.skipped.names
    errors := p.skipped.names.map (fun name => .manifest (.outsideFilter name e.config.filter)) ++
      results.filterMap failure? }
  /-- Every artifact of the manifest is accounted for once. -/
  total : (e.run net draw s).2.installed.length + (e.run net draw s).2.errors.length +
    (e.run net draw s).2.upToDate = m.size

/-- A survey that succeeds is followed by the run. -/
theorem follows_of_survey (hnet : net.Stateless) (draw : Draw)
    (h : e.survey net s = (t, .ok (m, p))) :
    e.Follows net draw s p m (m.fetched p.actionable)
      (e.installAll net draw t (m.fetched p.actionable)).2 := by
  obtain ⟨-, -, inventory, -, rfl⟩ := survey_eq_ok h
  have hnames := Plan.map_filename_fetched_actionable m inventory e.config.filter
  have hresults := names_installAll e net draw t
    (m.fetched (Plan.between m inventory e.config.filter).actionable)
  have hrun := run_eq draw h
  rw [Report.foldl_add] at hrun
  have ht := fst_survey hnet e s
  rw [h] at ht
  refine ⟨fun d hd => Manifest.mem_of_mem_fetched hd, hnames,
    ⟨NameMap.pairwise_names _, NameMap.pairwise_names _, NameMap.pairwise_names _⟩,
    Plan.nodup_actionable m inventory e.config.filter, hresults, ?_,
    fun _ _ => Network.requests_eq_cons, ?_, ?_⟩
  · rw [hrun, asked_installAll hnet]
    exact congrArg (fun u : Session => u.asked ++ _) ht
  · rw [hrun]
    rfl
  · -- successes and failures together are the names to be fetched
    have hcount := length_filterMap_results
      (e.installAll net draw t (m.fetched (Plan.between m inventory e.config.filter).actionable)).2
    have hfetched := congrArg List.length hnames
    have htotal := Plan.total_between m inventory e.config.filter
    rw [← hresults.length_eq] at hcount
    rw [List.length_map, Plan.length_actionable] at hfetched
    rw [hrun]
    simp only [opening, List.length_append, List.length_map, List.nil_append, NameMap.length_names]
    unfold Plan.total at htotal
    omega

/-- What the commands print of a plan. -/
structure Printed (e : Engine) (net : Network) (draw : Draw) (s : Session) (p : Plan) : Prop where
  check : ∀ painting, CommandLine.check painting net false e.config s =
    ((e.plan net s).1, CommandLine.heading painting ("Checking " ++ e.config.targetDir.text) ++
      CommandLine.planText painting p, none)
  checkJson : ∀ painting, CommandLine.check painting net true e.config s =
    ((e.plan net s).1, CommandLine.line p.text, none)
  dryRun : ∀ painting, CommandLine.sync painting net draw true e.config s =
    ((e.plan net s).1, CommandLine.heading painting ("Dry run: checking " ++
      e.config.targetDir.text ++ " against " ++ e.config.baseUrl) ++
      CommandLine.planText painting p, none)

theorem printed_of_plan (draw : Draw) (h : e.plan net s = (t, .ok p)) : e.Printed net draw s p where
  check painting := by
    unfold CommandLine.check
    rw [ofConfig_config]
    simp only [h, Bool.false_eq_true, if_false]
  checkJson painting := by
    unfold CommandLine.check
    rw [ofConfig_config]
    simp only [h, if_true]
  dryRun painting := by
    unfold CommandLine.sync CommandLine.preview
    rw [ofConfig_config]
    simp only [h, if_true]

/-- The plan and the run from one state agree. -/
structure Agrees (e : Engine) (net : Network) (draw : Draw) (s : Session) : Prop where
  /-- Planning asks for the manifest and changes nothing. -/
  planned : (e.plan net s).1 =
    { s with asked := s.asked ++ manifestRequests net e.config.baseUrl }
  /-- Where there is no plan, the run fails for the same reason, and changes nothing either. -/
  failed : ∀ fault, (e.plan net s).2 = .error fault →
    e.run net draw s = ((e.plan net s).1, { errors := [fault] })
  printed : ∀ p, (e.plan net s).2 = .ok p → e.Printed net draw s p
  followed : ∀ p, (e.plan net s).2 = .ok p →
    ∃ m ds results, (fetchManifest net s.asked e.config.baseUrl).2 = .ok m ∧
      e.Follows net draw s p m ds results

/-- **A run does what the plan says, and accounts for all of it.** -/
theorem run_agrees_with_plan (hnet : net.Stateless) (e : Engine) (draw : Draw) (s : Session) :
    e.Agrees net draw s := by
  have hfirst := fst_survey hnet e s
  cases hsurvey : e.survey net s with
  | mk t result =>
    have hplan := plan_of_survey hsurvey
    rw [hsurvey] at hfirst
    cases result with
    | error fault =>
      refine ⟨by rw [hplan]; exact hfirst, fun other hother => ?_, fun p hp => ?_, fun p hp => ?_⟩
      · rw [hplan] at hother
        obtain rfl := Except.error.inj hother
        rw [hplan]
        exact run_eq_failure draw hsurvey
      · rw [hplan] at hp
        cases hp
      · rw [hplan] at hp
        cases hp
    | ok found =>
      obtain ⟨m, q⟩ := found
      refine ⟨by rw [hplan]; exact hfirst, fun fault hfault => ?_, fun p hp => ?_, fun p hp => ?_⟩
      · rw [hplan] at hfault
        cases hfault
      · rw [hplan] at hp
        obtain rfl : q = p := Except.ok.inj hp
        exact printed_of_plan draw hplan
      · rw [hplan] at hp
        obtain rfl : q = p := Except.ok.inj hp
        obtain ⟨-, hfetch, -⟩ := survey_eq_ok hsurvey
        exact ⟨m, _, _, by rw [hfetch], follows_of_survey hnet draw hsurvey⟩

theorem run_agrees_with_plan_sample :
    Network.sample.Stateless ∧ Engine.sample.Agrees .sample .sample .sample :=
  ⟨Network.stateless_sample, run_agrees_with_plan Network.stateless_sample _ _ _⟩

end FolderSync.Engine
