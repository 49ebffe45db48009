import FolderSync.Proofs.Directory.Crossing
import FolderSync.Proofs.Directory.Landing
import FolderSync.Proofs.Engine.Run

/-!
# Where a run puts artifacts

One install after the other puts its artifact into the folder of the engine's path, however the path is
written.  The folder is the same for all of them: behind an artifact that was put on the way to the folder
the directory cannot be made again, so only the last install can do that (`Landed.apart_of_grown`).

* `Placed`: a disk on which artifacts were put into one directory.  `Placed.exists_of_way`: what becomes of
  the names that led past them.
* `installAll_placement`: installs that all succeed.  `run_placement`: a run without errors.
* `Engine.Replaces`: the entries that are given to artifacts (`Placement.replaces_iff`).
-/

namespace FolderSync

/-- Artifacts have been put into a directory of the disk `made`, and nothing else has been done. -/
structure Placed (made after : Disk) (dir : Location) (done : List Delivery) : Prop where
  here : after.here = made.here
  free : ∀ x ∈ done, made.find? (dir.entry x.descriptor.filename) ≠ some .directory
  files : ∀ x ∈ done,
    after.find? (dir.entry x.descriptor.filename) = some (.file { bytes := x.body })
  kept : ∀ loc, (∀ x ∈ done, loc ≠ dir.entry x.descriptor.filename) →
    after.find? loc = made.find? loc

theorem Placed.nil (d : Disk) (dir : Location) : Placed d d dir [] :=
  ⟨rfl, fun _ hx => (by cases hx), fun _ hx => (by cases hx), fun _ _ => rfl⟩

namespace Landed

variable {made mid after : Disk} {p : Path} {dir dir' : Location} {x : Delivery} {done : List Delivery}
  {name : String} {body : Bytes}

/-- Where a path has a folder once its directory was made again, the artifact was not put on its way. -/
theorem apart_of_grown (h : Landed made mid p name dir body) (hgrown : mid.Grown after)
    (hfolder : after.folder p = .ok dir') : dir.entry name ∉ mid.way p := by
  intro hway
  have hfile := hgrown.find?_of_some h.find?_entry
  rcases Disk.directory_or_link_of_way hgrown.wellFormed hfolder (hgrown.mem_way hway) with
    hdir | ⟨target, hlink⟩
  · cases hfile.symm.trans hdir
  · cases hfile.symm.trans hlink

/-- An artifact is put into the directory before others. -/
theorem placed_cons (h : Landed made mid p x.descriptor.filename dir x.body)
    (g : Placed mid after dir done)
    (hfresh : x.descriptor.filename ∉ done.map fun y => y.descriptor.filename) :
    Placed made after dir (x :: done) := by
  have hapart : ∀ y ∈ done, dir.entry x.descriptor.filename ≠ dir.entry y.descriptor.filename :=
    fun y hy heq => hfresh (entry_injective heq ▸ List.mem_map_of_mem hy)
  refine ⟨g.here.trans h.here, fun y hy => ?_, fun y hy => ?_, fun loc hloc => ?_⟩
  · rcases List.mem_cons.1 hy with rfl | hy
    · exact h.free
    · rw [← h.find?_of_ne (hapart y hy).symm]
      exact g.free y hy
  · rcases List.mem_cons.1 hy with rfl | hy
    · rw [g.kept _ hapart, h.find?_entry]
    · exact g.files y hy
  · rw [g.kept loc fun y hy => hloc y (List.mem_cons_of_mem _ hy), h.find?_of_ne (hloc x List.mem_cons_self)]

end Landed

namespace Placed

variable {made after : Disk} {p : Path} {dir dir' out out' : Location} {x : Delivery}
  {done : List Delivery}

/-- Where the path still has a folder, no artifact was put on its way. -/
theorem apart_of_folder (h : Placed made after dir done) (hdisk : after.WellFormed)
    (hfolder : after.folder p = .ok dir') (hx : x ∈ done) :
    dir.entry x.descriptor.filename ∉ after.way p := by
  intro hway
  have hfile := h.files x hx
  rcases Disk.directory_or_link_of_way hdisk hfolder hway with hdir | ⟨target, hlink⟩
  · cases hfile.symm.trans hdir
  · cases hfile.symm.trans hlink

/-- A path on whose way no artifact was put has the way and the folder that it had. -/
theorem folder_of_apart (h : Placed made after dir done)
    (hway : ∀ x ∈ done, dir.entry x.descriptor.filename ∉ after.way p) :
    made.folder p = after.folder p ∧ made.way p = after.way p :=
  Disk.folder_congr h.here.symm fun l hl =>
    (h.kept l fun x hx heq => hway x hx (heq ▸ hl)).symm

/-- **A name on whose way an artifact was put leads to an artifact.**  Before, it led where the name of that
artifact did. -/
theorem exists_of_way (h : Placed made after dir done) (hfolder : made.folder p = .ok dir)
    (hclear : ∀ x ∈ done, dir.entry x.descriptor.filename ∉ after.way p) {name : String}
    (plain : nameFault? name = none) (hmade : made.locate (p.join name) = .ok out)
    (hafter : after.locate (p.join name) = .ok out')
    (hway : ∃ x ∈ done, dir.entry x.descriptor.filename ∈ made.way (p.join name)) :
    ∃ x ∈ done, out' = dir.entry x.descriptor.filename ∧
      made.find? (dir.entry x.descriptor.filename) ≠ none ∧
      ((p.join x.descriptor.filename).Opens → made.locate (p.join x.descriptor.filename) = .ok out) := by
  have hsame := (h.folder_of_apart hclear).2
  -- both walks come to the directory, and have as many links left
  obtain ⟨links, hjoin⟩ := Disk.walk_join_congr hfolder
  have hbefore := hjoin made rfl fun _ _ => rfl
  obtain ⟨hnow, -⟩ := hjoin after h.here
    (fun l hl => h.kept l fun x hx heq => hclear x hx (hsame ▸ heq ▸ hl)) name (proper_of_plain plain)
  obtain ⟨hthen, hthenway⟩ := hbefore name (proper_of_plain plain)
  rw [Disk.locate_eq (Disk.opens_of_locate hmade), hthen] at hmade
  rw [Disk.locate_eq (Disk.opens_of_locate hafter), hnow] at hafter
  -- from there on they are the same up to the first artifact that was put on the way
  obtain ⟨y, hy, hyway⟩ := hway
  rw [hthenway, hsame] at hyway
  obtain ⟨k, hk, front, final, rest, hlen, ⟨x, hx, hloc⟩, hwalk⟩ :=
    Disk.walk_until (A := fun l => ∃ x ∈ done, l = dir.entry x.descriptor.filename)
      ⟨_, (List.mem_append.1 hyway).resolve_left (hclear y hy), y, hy, rfl⟩
  obtain ⟨rfl, hname⟩ := List.append_inj' hloc rfl
  obtain rfl := (List.cons.inj hname).1
  rw [hwalk _ fun _ _ => rfl] at hmade
  rw [hwalk after fun l hl => h.kept l fun x hx heq => hl ⟨x, hx, heq⟩] at hafter
  -- now a file stands there, and the walk can only end at it
  obtain ⟨rfl, rfl⟩ := Disk.done_of_file (h.files x hx) hafter
  refine ⟨x, hx, rfl, ?_, fun hopens => ?_⟩
  · exact Disk.find?_ne_none_of_passed hmade (Disk.mem_passed_into.2 ⟨hlen, .inl rfl⟩)
  · rw [Disk.locate_eq hopens, (hbefore _ (proper_of_plain x.descriptor.nameFault?_filename)).1]
    exact Disk.walk_mono hmade hk

end Placed

namespace Engine

variable {e : Engine} {net : Network} {draw : Draw} {s t : Session} {r : Report} {m : Manifest}
  {done : List Delivery} {dir : Location}

/-- How artifacts that were installed one after the other stand on the disk. -/
structure Placement (e : Engine) (net : Network) (s t : Session) (done : List Delivery) : Prop where
  genuine : ∀ x ∈ done, ∃ earlier later,
    x.Genuine net earlier later e.config.verifyIntegrity e.config.targetDir
  wellFormed : t.volume.disk.WellFormed
  /-- They are where the path led once its directory was made. -/
  placed : (done = [] ∧ t.volume = s.volume) ∨
    ∃ made dir, s.volume.ensurePath e.config.targetDir = (made, .ok ()) ∧
      made.disk.folder e.config.targetDir = .ok dir ∧ Placed made.disk t.volume.disk dir done

/-- What follows an artifact that has landed is put into the same directory. -/
theorem Placement.placed_after (h : e.Placement net s t done) {made : Disk} {name : String} {body : Bytes}
    (hlanded : Landed made s.volume.disk e.config.targetDir name dir body)
    (hdisk : s.volume.disk.WellFormed) : Placed s.volume.disk t.volume.disk dir done := by
  rcases h.placed with ⟨rfl, hsame⟩ | ⟨again, dir', hagain, hfolder, hplaced⟩
  · rw [hsame]
    exact .nil _ dir
  · -- the directory is there already, and its path still leads to it
    have hgrown := Volume.ensurePath_grown hdisk e.config.targetDir
    rw [hagain] at hgrown
    have hsame := hlanded.folder_of_apart (hlanded.apart_of_grown hgrown hfolder)
    have hnothing := Volume.ensurePath_of_folder hdisk hsame
    rw [hagain] at hnothing
    obtain rfl := hnothing
    obtain rfl := Except.ok.inj (hsame.symm.trans hfolder)
    exact hplaced

/-- **Installs that all succeed put their artifacts into one directory.** -/
theorem installAll_placement {ds : List Descriptor} (hnodup : (ds.map Descriptor.filename).Nodup)
    (hdisk : s.volume.disk.WellFormed)
    (hall : (e.installAll net draw s ds).2.filterMap failure? = []) :
    ∃ done : List Delivery,
      (e.installAll net draw s ds).2.filterMap Except.toOption = done.map Delivery.outcome ∧
      done.map Delivery.descriptor = ds ∧
      e.Placement net s (e.installAll net draw s ds).1 done := by
  induction ds generalizing s with
  | nil => exact ⟨[], rfl, rfl, fun x hx => (by cases hx), hdisk, .inl ⟨rfl, rfl⟩⟩
  | cons d rest ih =>
    obtain ⟨hd, hnodup⟩ := List.nodup_cons.1 hnodup
    rw [installAll_cons] at hall ⊢
    cases hinstall : install net draw e.config.verifyIntegrity d e.config.targetDir s with
    | mk t result =>
      rw [hinstall] at hall
      dsimp only at hall ⊢
      cases result with
      | error fault => cases hall
      | ok o =>
        obtain ⟨made, dir, body, hmade, hgenuine, hlanded, -⟩ := install_landed hdisk hinstall
        have hgrown := Volume.ensurePath_grown hdisk e.config.targetDir
        rw [hmade] at hgrown
        have ht := hlanded.wellFormed hgrown.wellFormed d.nameFault?_filename
        obtain ⟨done, hdone, rfl, hrest⟩ := ih hnodup ht hall
        have hfresh : d.filename ∉ done.map fun y => y.descriptor.filename := by
          rwa [List.map_map] at hd
        have hplaced := Landed.placed_cons (x := ⟨d, o, body⟩) hlanded (hrest.placed_after hlanded ht) hfresh
        refine ⟨⟨d, o, body⟩ :: done, ?_, rfl, ?_, hrest.wellFormed, ?_⟩
        · rw [List.filterMap_cons, hdone]
          rfl
        · intro x hx
          rcases List.mem_cons.1 hx with rfl | hx
          · exact ⟨_, _, hgenuine⟩
          · exact hrest.genuine x hx
        · exact .inr ⟨made, dir, hmade, hlanded.folder, hplaced⟩

/-- **A run without errors puts what it reports into one directory.** -/
theorem run_placement (hdisk : s.volume.disk.WellFormed) (hrun : e.run net draw s = (t, r))
    (hsuccess : r.errors = []) (hm : (fetchManifest net s.asked e.config.baseUrl).2 = .ok m) :
    ∃ done : List Delivery, r.installed = done.map Delivery.outcome ∧
      (∀ x ∈ done, x.descriptor ∈ m.artifacts) ∧ e.Placement net s t done := by
  rcases run_cases hrun with ⟨fault, -, rfl⟩ | ⟨u, m', p, hsurvey, rfl, rfl⟩
  · cases hsuccess
  · obtain ⟨hvolume, hfetch, inventory, -, rfl⟩ := survey_eq_ok hsurvey
    obtain rfl : m' = m := by
      rw [hfetch] at hm
      exact Except.ok.inj hm
    rw [Report.foldl_add] at hsuccess ⊢
    have hnodup := Plan.nodup_actionable m' inventory e.config.filter
    rw [← Plan.map_filename_fetched_actionable] at hnodup
    obtain ⟨done, hdone, hfetched, hplacement⟩ :=
      installAll_placement hnodup (hvolume ▸ hdisk) (List.append_eq_nil_iff.1 hsuccess).2
    refine ⟨done, hdone, fun x hx => ?_, hplacement.genuine, hplacement.wellFormed, ?_⟩
    · exact Manifest.mem_of_mem_fetched (hfetched ▸ List.mem_map_of_mem hx)
    · rw [← hvolume]
      exact hplacement.placed

/-! ### The entries that are replaced -/

/-- A run from `s` with the report `r` has given the entry to an artifact: the path that is reported led
there once the directory was made. -/
def Replaces (e : Engine) (s : Session) (r : Report) (loc : Location) : Prop :=
  ∃ o ∈ r.installed, (s.volume.ensurePath e.config.targetDir).1.entryLocation o.path = .ok loc

theorem Placement.short (h : e.Placement net s t done) {made : Disk}
    (hplaced : Placed made t.volume.disk dir done) {x : Delivery} (hx : x ∈ done) :
    (utf8 x.descriptor.filename).length ≤ nameLimit := by
  have hthere : t.volume.disk.find? (dir ++ [utf8 x.descriptor.filename]) ≠ none := by
    rw [← Location.entry, hplaced.files x hx]
    simp
  exact (h.wellFormed.valid hthere).length_le

/-- These are the entries in the folder of the path under the names of the artifacts. -/
theorem Placement.replaces_iff (h : e.Placement net s t done)
    (hinstalled : r.installed = done.map Delivery.outcome) {made : Volume}
    (hmade : s.volume.ensurePath e.config.targetDir = (made, .ok ()))
    (hfolder : made.disk.folder e.config.targetDir = .ok dir)
    (hplaced : Placed made.disk t.volume.disk dir done) (loc : Location) :
    e.Replaces s r loc ↔ ∃ x ∈ done, loc = dir.entry x.descriptor.filename := by
  unfold Replaces
  rw [hinstalled, hmade]
  simp only [List.mem_map, exists_exists_and_eq_and]
  refine exists_congr fun x => and_congr_right fun hx => ?_
  obtain ⟨_, _, hgenuine⟩ := h.genuine x hx
  rw [hgenuine.path, Volume.entryLocation_join_iff (proper_of_plain x.descriptor.nameFault?_filename)]
  constructor
  · rintro ⟨-, -, dir', hdir', rfl⟩
    obtain rfl := Except.ok.inj (hfolder.symm.trans hdir')
    rfl
  · rintro rfl
    exact ⟨hgenuine.opens, h.short hplaced hx, dir, hfolder, rfl⟩

end Engine

end FolderSync
