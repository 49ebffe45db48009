import FolderSync.Proofs.Directory.Independence
import FolderSync.Proofs.Engine.Run

/-!
# The order of artifacts does not matter

Artifacts of different names that come from a network without memory can be installed in any order, if
the disk grants all calls: each has the result that it has alone, and the disk at the end is the start
with what each of them changes alone (`installAll_beside`), so it is the same for every order
(`installs_independent`).

* `Engine.Independent`: what is said of a list of artifacts.
* `Engine.Reordered`: two servers whose manifests differ in the order of their entries.
-/

namespace FolderSync.Engine

variable {e : Engine} {net other : Network} {draw draw' : Draw} {s t : Session} {v : Volume}
  {m m' : Manifest} {ds order order' : List Descriptor} {taken : List String} {parts : List Disk}
  {answer : Descriptor → Except RequestFault Reply}

/-- What becomes of an artifact, and of the volume, if it is installed alone. -/
def alone (e : Engine) (draw : Draw) (answer : Descriptor → Except RequestFault Reply) (v : Volume)
    (d : Descriptor) : Volume × Except SyncError Installed :=
  deliver draw e.config.verifyIntegrity d e.config.targetDir (answer d) v

/-- On a network without memory an install has nothing to do with the requests made before. -/
theorem install_eq_alone (hnet : net.Stateless)
    (answer : Descriptor → Except RequestFault Reply) (draw : Draw) (s : Session) {d : Descriptor}
    (hanswer : (net.request [] d.url).2 = answer d) :
    install net draw e.config.verifyIntegrity d e.config.targetDir s =
      ({ volume := (e.alone draw answer s.volume d).1, asked := s.asked ++ net.requests d.url },
        (e.alone draw answer s.volume d).2) := by
  rw [install_eq, Network.request_eq hnet, hanswer]
  rfl

/-! ### One after the other -/

/-- **One after the other, each artifact meets the fate that it meets alone, and the disk at the end has
the changes of all.**  By induction on the artifacts: each one that was installed leaves the rest
beside one name more. -/
theorem installAll_beside (hnet : net.Stateless) (hcalm : v.Calm) (hdisk : v.disk.WellFormed)
    (hdirect : v.disk.Direct e.config.targetDir.trail) (draw draw' : Draw)
    (hanswer : ∀ d ∈ ds, (net.request [] d.url).2 = answer d)
    (hnodup : (ds.map Descriptor.filename).Nodup) (htaken : ∀ name ∈ taken, nameFault? name = none)
    (hapart : ∀ d ∈ ds, d.filename ∉ taken) (h : v.Beside e.config.targetDir taken s.volume)
    (hmerged : v.disk.Merged parts s.volume.disk) :
    List.Forall₂ (fun d result => Alike d.filename (e.alone draw answer v d).2 result) ds
        (e.installAll net draw' s ds).2 ∧
      v.disk.Merged ((ds.map fun d => (e.alone draw answer v d).1.disk).reverse ++ parts)
        (e.installAll net draw' s ds).1.volume.disk := by
  induction ds generalizing s taken parts with
  | nil => exact ⟨.nil, hmerged⟩
  | cons d rest ih =>
    obtain ⟨hd, hrest⟩ := List.nodup_cons.1 hnodup
    obtain ⟨halike, hcarries, hbeside⟩ := deliver_beside hcalm hdisk hdirect h htaken
      (hapart d List.mem_cons_self) draw draw' e.config.verifyIntegrity (answer d)
    have htaken' : ∀ name ∈ d.filename :: taken, nameFault? name = none := by
      intro name hin
      rcases List.mem_cons.1 hin with rfl | hin
      · exact d.nameFault?_filename
      · exact htaken name hin
    have hapart' : ∀ c ∈ rest, c.filename ∉ d.filename :: taken := by
      intro c hc hin
      rcases List.mem_cons.1 hin with heq | hin
      · exact hd (heq ▸ List.mem_map_of_mem hc)
      · exact hapart c (List.mem_cons_of_mem _ hc) hin
    have hfirst := install_eq_alone (e := e) hnet answer draw' s (hanswer d List.mem_cons_self)
    obtain ⟨hresults, hwhole⟩ := ih (s := ⟨(e.alone draw' answer s.volume d).1, _⟩)
      (fun c hc => hanswer c (List.mem_cons_of_mem _ hc)) hrest htaken' hapart' hbeside
      (hmerged.cons hcarries)
    rw [installAll_cons, hfirst, List.map_cons, List.reverse_cons, List.append_assoc]
    exact ⟨.cons halike hresults, hwhole⟩

/-- The same, when nothing has been installed yet. -/
theorem installAll_alone (hnet : net.Stateless) (hcalm : v.Calm) (hdisk : v.disk.WellFormed)
    (hdirect : v.disk.Direct e.config.targetDir.trail) (draw draw' : Draw) (hvolume : s.volume = v)
    (hanswer : ∀ d ∈ ds, (net.request [] d.url).2 = answer d)
    (hnodup : (ds.map Descriptor.filename).Nodup) :
    List.Forall₂ (fun d result => Alike d.filename (e.alone draw answer v d).2 result) ds
        (e.installAll net draw' s ds).2 ∧
      v.disk.Merged (ds.map fun d => (e.alone draw answer v d).1.disk).reverse
        (e.installAll net draw' s ds).1.volume.disk := by
  subst hvolume
  have hall := installAll_beside hnet hcalm hdisk hdirect draw draw' hanswer hnodup
    (fun name hin => absurd hin List.not_mem_nil) (fun d _ => List.not_mem_nil) (.refl hcalm hdisk [])
    (.nil _)
  rwa [List.append_nil] at hall

/-- **The same artifacts in another order, from a server with the same replies, make the same disk.** -/
theorem installAll_same (hnet : net.Stateless) (hother : other.Stateless) (hcalm : v.Calm)
    (hdisk : v.disk.WellFormed) (hdirect : v.disk.Direct e.config.targetDir.trail)
    (hs : s.volume = v) (ht : t.volume = v) (hnodup : (order.map Descriptor.filename).Nodup)
    (hperm : order.Perm order')
    (hreplies : ∀ d ∈ order, (other.request [] d.url).2 = (net.request [] d.url).2)
    (draw draw' : Draw) :
    (e.installAll net draw s order).1.volume.disk.Same
      (e.installAll other draw' t order').1.volume.disk := by
  have hwhole := (installAll_alone hnet hcalm hdisk hdirect draw draw hs (fun d _ => rfl) hnodup).2
  have hwhole' := (installAll_alone hother hcalm hdisk hdirect draw draw' ht
    (fun d hd => hreplies d (hperm.mem_iff.2 hd)) ((hperm.map _).nodup_iff.1 hnodup)).2
  refine hwhole.same hwhole' fun part => ?_
  rw [List.mem_reverse, List.mem_reverse]
  exact (hperm.map _).mem_iff

/-! ### Runs -/

/-- Two servers whose manifests list the same artifacts in different order, and that reply the same to
requests for them. -/
structure Reordered (e : Engine) (s : Session) (net other : Network) (m m' : Manifest) : Prop where
  manifest : (fetchManifest net s.asked e.config.baseUrl).2 = .ok m
  manifest' : (fetchManifest other s.asked e.config.baseUrl).2 = .ok m'
  artifacts : m.artifacts.Perm m'.artifacts
  replies : ∀ d ∈ m.artifacts, (other.request [] d.url).2 = (net.request [] d.url).2

section Survey

variable {inventory : Inventory} (draw : Draw)
  (hm : (fetchManifest net s.asked e.config.baseUrl).2 = .ok m)

include hm

/-- A survey with a manifest makes a plan for it. -/
theorem survey_of_manifest : e.survey net s =
    ({ s with asked := (fetchManifest net s.asked e.config.baseUrl).1 },
      (e.planFor m s.volume.disk).map fun p => (m, p)) := by
  unfold survey
  cases hfetch : fetchManifest net s.asked e.config.baseUrl with
  | mk asked result =>
    rw [hfetch] at hm
    obtain rfl : result = .ok m := hm
    dsimp only
    cases e.planFor m s.volume.disk <;> rfl

/-- A run that cannot read the directory leaves everything as it is. -/
theorem volume_run_of_unread {fault : FileError}
    (hscan : s.volume.disk.scan e.config.filter e.config.targetDir = .error fault) :
    (e.run net draw s).1.volume = s.volume := by
  have hsurvey := survey_of_manifest (e := e) hm
  rw [planFor, hscan] at hsurvey
  rw [run_eq_failure draw hsurvey]

/-- A run that can read the directory installs what differs from the manifest. -/
theorem volume_run_of_inventory
    (hscan : s.volume.disk.scan e.config.filter e.config.targetDir = .ok inventory) :
    (e.run net draw s).1.volume =
      (e.installAll net draw { s with asked := (fetchManifest net s.asked e.config.baseUrl).1 }
        (m.fetched (Plan.between m inventory e.config.filter).actionable)).1.volume := by
  have hsurvey := survey_of_manifest (e := e) hm
  rw [planFor, hscan] at hsurvey
  rw [run_eq draw hsurvey]

end Survey

/-- What is to be fetched does not depend on the order of the entries, but for its own order. -/
theorem perm_fetched_actionable (h : m.artifacts.Perm m'.artifacts) (inventory : Inventory)
    (f : Filter) : (m.fetched (Plan.between m inventory f).actionable).Perm
      (m'.fetched (Plan.between m' inventory f).actionable) := by
  have hnodup : ∀ m : Manifest, (m.fetched (Plan.between m inventory f).actionable).Nodup := by
    intro m
    refine List.Nodup.of_map Descriptor.filename ?_
    rw [Plan.map_filename_fetched_actionable]
    exact Plan.nodup_actionable m inventory f
  refine (List.perm_ext_iff_of_nodup (hnodup m) (hnodup m')).2 fun d => ?_
  rw [Plan.mem_fetched_actionable_iff, Plan.mem_fetched_actionable_iff, h.mem_iff]

/-- **The order of a manifest's entries does not change the disk after a run.** -/
theorem Reordered.same (h : e.Reordered s net other m m') (hnet : net.Stateless)
    (hother : other.Stateless) (hcalm : s.volume.Calm) (hdisk : s.volume.disk.WellFormed)
    (hdirect : s.volume.disk.Direct e.config.targetDir.trail) (draw draw' : Draw) :
    (e.run net draw s).1.volume.disk.Same (e.run other draw' s).1.volume.disk := by
  cases hscan : s.volume.disk.scan e.config.filter e.config.targetDir with
  | error fault =>
    rw [volume_run_of_unread draw h.manifest hscan, volume_run_of_unread draw' h.manifest' hscan]
    exact .refl _
  | ok inventory =>
    have hnodup : ((m.fetched (Plan.between m inventory e.config.filter).actionable).map
        Descriptor.filename).Nodup := by
      rw [Plan.map_filename_fetched_actionable]
      exact Plan.nodup_actionable m inventory e.config.filter
    rw [volume_run_of_inventory draw h.manifest hscan, volume_run_of_inventory draw' h.manifest' hscan]
    apply installAll_same hnet hother hcalm hdisk hdirect _ _ hnodup
      (perm_fetched_actionable h.artifacts inventory e.config.filter)
      fun d hd => h.replies d (Manifest.mem_of_mem_fetched hd)
    · rfl
    · rfl

/-! ### Independence -/

/-- Artifacts that are installed from `s`, one after the other, do not get in each other's way. -/
structure Independent (e : Engine) (net : Network) (s : Session) (ds : List Descriptor) : Prop where
  /-- Each has the result that it has alone, up to the token of a staging name. -/
  alone : ∀ draw draw' order, order.Perm ds → List.Forall₂
    (fun d result => Alike d.filename
      (install net draw e.config.verifyIntegrity d e.config.targetDir s).2 result)
    order (e.installAll net draw' s order).2
  /-- Any two orders end in the same disk. -/
  order : ∀ draw draw' order order', order.Perm ds → order'.Perm ds →
    (e.installAll net draw s order).1.volume.disk.Same
      (e.installAll net draw' s order').1.volume.disk

/-- **Installs are independent, and their order does not matter,** neither for the results nor for the
disk; nor does the order of a manifest's entries for the disk after a run.  This is of a disk that grants
all calls: one that fills up has room for those that come first. -/
theorem installs_independent (hnet : net.Stateless) (e : Engine) (s : Session)
    (hcalm : s.volume.responses = []) (hdisk : s.volume.disk.WellFormed)
    (hdirect : s.volume.disk.Direct e.config.targetDir.trail) :
    (∀ ds : List Descriptor, (ds.map Descriptor.filename).Nodup → e.Independent net s ds) ∧
      ∀ (other : Network) (m m' : Manifest), other.Stateless → e.Reordered s net other m m' →
        ∀ draw draw', (e.run net draw s).1.volume.disk.Same (e.run other draw' s).1.volume.disk := by
  refine ⟨fun ds hnodup => ⟨fun draw draw' order hperm => ?_,
    fun draw draw' order order' hperm hperm' => ?_⟩, fun other m m' hother h draw draw' =>
      h.same hnet hother hcalm hdisk hdirect draw draw'⟩
  · have halone := (installAll_alone hnet hcalm hdisk hdirect draw draw' rfl (fun d _ => rfl)
      ((hperm.map _).nodup_iff.2 hnodup)).1
    refine halone.imp fun d result halike => ?_
    rwa [install_eq_alone hnet (fun d => (net.request [] d.url).2) draw s rfl]
  · exact installAll_same hnet hnet hcalm hdisk hdirect rfl rfl ((hperm.map _).nodup_iff.2 hnodup)
      (hperm.trans hperm'.symm) (fun d _ => rfl) draw draw'

/-! ### A server that lists two artifacts in either order -/

end Engine

/-- A server that offers one content under several names. -/
def Network.listing (names : List String) : Network :=
  .ofRoutes true [
    { url := "http://[::1]/api/mods-manifest"
      body := utf8 ("\x7b\"success\":true,\"mods\":[" ++ String.intercalate "," (names.map fun name =>
        "[\"" ++ name ++ "\",\"a9993e364706816aba3e25717850c26c9cd0d89d\",\"http://[::1]/a\"]")
        ++ "]\x7d") },
    { url := "http://[::1]/a", body := utf8 "abc" }]

namespace Engine

theorem eq_ok_of_toOption {result : Except SyncError Manifest} (h : result.toOption = some m) :
    result = .ok m := by
  cases result with
  | error fault => cases h
  | ok found => rw [Option.some.inj h]

theorem reordered_listing : ∃ m m', sample.Reordered .sample
    (.listing ["blockcraft-a.jar", "blockcraft-b.jar"])
    (.listing ["blockcraft-b.jar", "blockcraft-a.jar"]) m m' := by
  have hboth :
      ((fetchManifest (.listing ["blockcraft-a.jar", "blockcraft-b.jar"]) []
          sample.config.baseUrl).2.toOption.any fun m =>
        (fetchManifest (.listing ["blockcraft-b.jar", "blockcraft-a.jar"]) []
            sample.config.baseUrl).2.toOption.any fun m' =>
          m.artifacts.Perm m'.artifacts ∧ ∀ d ∈ m.artifacts,
            ((Network.listing ["blockcraft-b.jar", "blockcraft-a.jar"]).request [] d.url).2 =
              ((Network.listing ["blockcraft-a.jar", "blockcraft-b.jar"]).request [] d.url).2) =
        true := by decide +kernel
  obtain ⟨m, hm, hother⟩ := (Option.any_eq_true _ _).1 hboth
  obtain ⟨m', hm', hcase⟩ := (Option.any_eq_true _ _).1 hother
  obtain ⟨hperm, hreplies⟩ := of_decide_eq_true hcase
  exact ⟨m, m', eq_ok_of_toOption hm, eq_ok_of_toOption hm', hperm, hreplies⟩

theorem installs_independent_sample : Session.sample.volume.responses = [] ∧
    Session.sample.volume.disk.WellFormed ∧
    Session.sample.volume.disk.Direct sample.config.targetDir.trail ∧
    (∀ ds : List Descriptor, (ds.map Descriptor.filename).Nodup →
      sample.Independent (.listing ["blockcraft-a.jar", "blockcraft-b.jar"]) .sample ds) ∧
    ∀ draw draw',
      (sample.run (.listing ["blockcraft-a.jar", "blockcraft-b.jar"]) draw .sample).1.volume.disk.Same
        (sample.run (.listing ["blockcraft-b.jar", "blockcraft-a.jar"]) draw' .sample).1.volume.disk := by
  have hstateless : ∀ names, (Network.listing names).Stateless := fun _ _ _ _ => rfl
  obtain ⟨hindependent, hruns⟩ := installs_independent (hstateless _) sample .sample rfl
    Session.wellFormed_sample Session.direct_sample
  obtain ⟨m, m', hreordered⟩ := reordered_listing
  exact ⟨rfl, Session.wellFormed_sample, Session.direct_sample, hindependent,
    hruns _ m m' (hstateless _) hreordered⟩

end FolderSync.Engine
