import FolderSync.Proofs.Engine.Convergence
import FolderSync.Proofs.Engine.Placement

/-!
# Artifacts behind links

A run sorts the manifest once, before it installs anything, and an artifact that was up to date then
is not looked at again.  If its name is a link, its content stands elsewhere, and an install may
replace an entry on the way there.  After a verified run without errors an artifact has its content
just if no entry that was replaced lies on the way of the directory, and it was installed, or no such
entry lies on its own way (`holds_after_success_iff`).

* `Disk.Holds.congr`: what a path holds is settled on its way.
* `Placement.not_holds_of_way`: where an entry on the way was replaced, the content is another.
* `Placement.apart_of_direct`: on the way of a directory that is reached directly nothing is replaced.
* `not_holds_aliased`: an artifact that is a link to one that is updated.
-/

namespace FolderSync

/-! ### What a path holds, and its way -/

namespace Disk

variable {d e : Disk} {p : Path} {hash : ContentHash}

/-- **What a path holds is settled on its way.** -/
theorem Holds.congr (h : d.Holds p hash) (hdisk : d.WellFormed) (hhere : e.here = d.here)
    (hway : ∀ l ∈ d.way p, e.find? l = d.find? l) : e.Holds p hash := by
  obtain ⟨bytes, hstatus, rfl⟩ := holds_iff.1 h
  obtain ⟨loc, hlocate, hfile⟩ := status_eq_ok_iff.1 hstatus
  have hopens := opens_of_locate hlocate
  rw [locate_eq hopens, follow] at hlocate
  refine holds_iff.2 ⟨bytes, status_eq_ok_iff.2 ⟨loc, ?_, ?_⟩, rfl⟩
  · rw [locate_eq hopens, follow, start_of_here hhere, walk_congr_of_passed hway, hlocate]
  · rcases mem_passed_or_directory hdisk (hdisk.find?_start _) hlocate with hpassed | hdir
    · rw [hway loc hpassed, hfile]
    · rw [hfile] at hdir
      cases hdir

/-- A path behind which a name holds something has a folder. -/
theorem Holds.exists_folder {name : String} (h : d.Holds (p.join name) hash)
    (plain : nameFault? name = none) : ∃ dir, d.folder p = .ok dir := by
  obtain ⟨bytes, hstatus, -⟩ := holds_iff.1 h
  obtain ⟨loc, hlocate, -⟩ := status_eq_ok_iff.1 hstatus
  exact exists_folder_of_locate_join (proper_of_plain plain) hlocate

end Disk

namespace Engine

open Disk

variable {e : Engine} {net : Network} {draw : Draw} {s t : Session} {r : Report} {m : Manifest}
  {done : List Delivery} {inventory : Inventory} {d : Descriptor} {x : Delivery} {dir : Location}

/-! ### One artifact after a run -/

/-- An artifact that is installed was not there with its hash before. -/
theorem get?_ne_of_installed (hrun : e.run net draw s = (t, r))
    (hm : (fetchManifest net s.asked e.config.baseUrl).2 = .ok m)
    (hscan : s.volume.disk.scan e.config.filter e.config.targetDir = .ok inventory) {o : Installed}
    (ho : o ∈ r.installed) (hd : d ∈ m.artifacts) (hname : o.filename = d.filename) :
    inventory.get? d.filename ≠ some d.hash := by
  intro hget
  obtain ⟨m', inventory', hm', hscan', d', hd', hname', hfate⟩ := fate_of_installed hrun ho
  obtain rfl := Except.ok.inj (hm.symm.trans hm')
  obtain rfl := Except.ok.inj (hscan.symm.trans hscan')
  obtain rfl := Manifest.eq_of_filename_eq hd' hd (hname'.trans hname)
  rw [fate_eq_keep_iff.2 ⟨hname ▸ matches_of_installed hrun ho, hget⟩] at hfate
  rcases hfate with hfate | hfate <;> cases hfate

namespace Placement

/-- Where an artifact's path still leads to a content, nothing was put on the way of the directory. -/
theorem apart_of_holds (h : e.Placement net s t done) {made : Disk}
    (hplaced : Placed made t.volume.disk dir done)
    (hreplaces : ∀ loc, e.Replaces s r loc ↔ ∃ x ∈ done, loc = dir.entry x.descriptor.filename)
    {hash : ContentHash} (hholds : t.volume.disk.Holds (e.config.targetDir.join d.filename) hash) :
    ∀ l ∈ t.volume.disk.way e.config.targetDir, ¬ e.Replaces s r l := by
  intro l hl hreplaced
  obtain ⟨x, hx, rfl⟩ := (hreplaces l).1 hreplaced
  obtain ⟨dir', hfolder⟩ := hholds.exists_folder d.nameFault?_filename
  exact hplaced.apart_of_folder h.wellFormed hfolder hx hl

/-- An artifact that was installed has its content where the path still has its folder. -/
theorem holds_of_installed (h : e.Placement net s t done) {made : Disk}
    (hplaced : Placed made t.volume.disk dir done)
    (hfolder : t.volume.disk.folder e.config.targetDir = .ok dir)
    (hverify : e.config.verifyIntegrity = true) (hx : x ∈ done) :
    t.volume.disk.Holds (e.config.targetDir.join x.descriptor.filename) x.descriptor.hash := by
  obtain ⟨_, _, hgenuine⟩ := h.genuine x hx
  have hstatus := status_join_of_folder (proper_of_plain x.descriptor.nameFault?_filename)
    hgenuine.opens (h.short hplaced hx) hfolder (hplaced.files x hx)
  exact holds_iff.2 ⟨x.body, hstatus, (hgenuine.verified hverify).symm⟩

/-- That is so unless something was put on the way of the directory. -/
theorem holds_iff_of_installed (h : e.Placement net s t done)
    (hinstalled : r.installed = done.map Delivery.outcome)
    (hverify : e.config.verifyIntegrity = true) (hx : x ∈ done) :
    t.volume.disk.Holds (e.config.targetDir.join x.descriptor.filename) x.descriptor.hash ↔
      ∀ l ∈ t.volume.disk.way e.config.targetDir, ¬ e.Replaces s r l := by
  rcases h.placed with ⟨rfl, -⟩ | ⟨made, dir, hmade, hfolder, hplaced⟩
  · cases hx
  have hreplaces := h.replaces_iff hinstalled hmade hfolder hplaced
  refine ⟨h.apart_of_holds hplaced hreplaces, fun hclear => ?_⟩
  have hsame := (hplaced.folder_of_apart fun y hy hl =>
    hclear _ hl ((hreplaces _).2 ⟨y, hy, rfl⟩)).1
  exact h.holds_of_installed hplaced (hsame ▸ hfolder) hverify hx

/-- In a directory that was there before, artifacts were put where it led, and nothing else was
done. -/
theorem placed_of_folder (h : e.Placement net s t done)
    (hinstalled : r.installed = done.map Delivery.outcome) (hdisk : s.volume.disk.WellFormed)
    (hfolder : s.volume.disk.folder e.config.targetDir = .ok dir) :
    Placed s.volume.disk t.volume.disk dir done ∧
      ∀ loc, e.Replaces s r loc ↔ ∃ x ∈ done, loc = dir.entry x.descriptor.filename := by
  rcases h.placed with ⟨rfl, hsame⟩ | ⟨made, dir', hmade, hfolder', hplaced⟩
  · rw [hsame]
    exact ⟨.nil _ dir, fun loc => by simp [Replaces, hinstalled]⟩
  · have hnothing := Volume.ensurePath_of_folder hdisk hfolder
    have hreplaces := h.replaces_iff hinstalled hmade hfolder' hplaced
    rw [hmade] at hnothing
    obtain rfl := hnothing
    obtain rfl := Except.ok.inj (hfolder.symm.trans hfolder')
    exact ⟨hplaced, hreplaces⟩

/-- Where an entry on the way was replaced, an artifact that was up to date has another content, or
none. -/
theorem not_holds_of_way (h : e.Placement net s t done) (hrun : e.run net draw s = (t, r))
    (hm : (fetchManifest net s.asked e.config.baseUrl).2 = .ok m)
    (hinstalled : r.installed = done.map Delivery.outcome)
    (hlisted : ∀ x ∈ done, x.descriptor ∈ m.artifacts)
    (hplaced : Placed s.volume.disk t.volume.disk dir done)
    (hverify : e.config.verifyIntegrity = true)
    (hscan : s.volume.disk.scan e.config.filter e.config.targetDir = .ok inventory)
    (hlocate : s.volume.disk.locate e.config.targetDir = .ok dir)
    (hdir : s.volume.disk.find? dir = some .directory)
    (hget : inventory.get? d.filename = some d.hash)
    (hway : ∃ x ∈ done, dir.entry x.descriptor.filename ∈
      s.volume.disk.way (e.config.targetDir.join d.filename)) :
    ¬ t.volume.disk.Holds (e.config.targetDir.join d.filename) d.hash := by
  intro hholds
  have hbefore := ((get?_scan_iff_of_locate hscan hlocate hdir).1 hget).2.2
  obtain ⟨bytes, hstatus, hhash⟩ := holds_iff.1 hbefore
  obtain ⟨bytes', hstatus', hhash'⟩ := holds_iff.1 hholds
  obtain ⟨out, hout, hfile⟩ := status_eq_ok_iff.1 hstatus
  obtain ⟨out', hout', hfile'⟩ := status_eq_ok_iff.1 hstatus'
  -- the way of the directory itself is clear
  obtain ⟨dir', hfolder'⟩ := hholds.exists_folder d.nameFault?_filename
  have hclear : ∀ x ∈ done, dir.entry x.descriptor.filename ∉ t.volume.disk.way e.config.targetDir :=
    fun x hx => hplaced.apart_of_folder h.wellFormed hfolder' hx
  obtain ⟨x, hx, rfl, hthere, hearlier⟩ := hplaced.exists_of_way (folder_of_locate hlocate hdir) hclear
    d.nameFault?_filename hout hout' hway
  obtain ⟨_, _, hgenuine⟩ := h.genuine x hx
  -- what stands there now is a body with the hash that was wanted
  have hequal : d.hash = x.descriptor.hash := by
    rw [hplaced.files x hx] at hfile'
    obtain rfl := (Content.mk.inj (Entry.file.inj (Option.some.inj hfile'))).1
    rw [hhash', hgenuine.verified hverify]
  -- so before, the artifact that was put there had its content already
  have hheld : s.volume.disk.Holds (e.config.targetDir.join x.descriptor.filename) d.hash :=
    holds_iff.2 ⟨bytes, status_eq_ok_iff.2 ⟨out, hearlier hgenuine.opens, hfile⟩, hhash⟩
  have ho : x.outcome ∈ r.installed := hinstalled ▸ List.mem_map_of_mem hx
  refine get?_ne_of_installed hrun hm hscan ho (hlisted x hx) hgenuine.filename ?_
  rw [← hequal]
  exact (get?_scan_iff_of_locate hscan hlocate hdir).2
    ⟨hthere, hgenuine.filename ▸ matches_of_installed hrun ho, hheld⟩

/-- An artifact that was up to date keeps its content unless something was put on its way. -/
theorem holds_iff_of_found (h : e.Placement net s t done) (hrun : e.run net draw s = (t, r))
    (hm : (fetchManifest net s.asked e.config.baseUrl).2 = .ok m)
    (hinstalled : r.installed = done.map Delivery.outcome)
    (hlisted : ∀ x ∈ done, x.descriptor ∈ m.artifacts) (hdisk : s.volume.disk.WellFormed)
    (hverify : e.config.verifyIntegrity = true)
    (hscan : s.volume.disk.scan e.config.filter e.config.targetDir = .ok inventory)
    (hget : inventory.get? d.filename = some d.hash) :
    t.volume.disk.Holds (e.config.targetDir.join d.filename) d.hash ↔
      (∀ l ∈ t.volume.disk.way e.config.targetDir, ¬ e.Replaces s r l) ∧
        ∀ l ∈ s.volume.disk.way (e.config.targetDir.join d.filename), ¬ e.Replaces s r l := by
  obtain ⟨dir, -, hlocate, hdir, -, -, -, hbefore⟩ := get?_scan hscan hget
  obtain ⟨hplaced, hreplaces⟩ :=
    h.placed_of_folder hinstalled hdisk (folder_of_locate hlocate hdir)
  constructor
  · refine fun hholds => ⟨h.apart_of_holds hplaced hreplaces hholds, fun l hl hreplaced => ?_⟩
    obtain ⟨y, hy, rfl⟩ := (hreplaces l).1 hreplaced
    exact h.not_holds_of_way hrun hm hinstalled hlisted hplaced hverify hscan hlocate hdir hget
      ⟨y, hy, hl⟩ hholds
  · rintro ⟨-, hapart⟩
    refine hbefore.congr hdisk hplaced.here fun l hl => hplaced.kept l fun y hy heq => ?_
    exact hapart l hl ((hreplaces l).2 ⟨y, hy, heq⟩)

/-- On the way of a directory that is reached directly nothing is replaced. -/
theorem apart_of_direct (h : e.Placement net s t done)
    (hinstalled : r.installed = done.map Delivery.outcome) (hdisk : s.volume.disk.WellFormed)
    (hdirect : s.volume.disk.Direct e.config.targetDir.trail) :
    (∀ l, e.Replaces s r l ↔
      ∃ o ∈ r.installed, l = (e.target s.volume.disk).entry o.filename) ∧
    ∀ l ∈ t.volume.disk.way e.config.targetDir, ¬ e.Replaces s r l := by
  rcases h.placed with ⟨rfl, -⟩ | ⟨made, dir, hmade, hfolder, hplaced⟩
  · simp [Replaces, hinstalled]
  · have hreplaces := h.replaces_iff hinstalled hmade hfolder hplaced
    have hgrown := Volume.ensurePath_grown hdisk e.config.targetDir
    rw [hmade] at hgrown
    have hdirect' := hgrown.direct hdirect
    have hdir := eq_of_follow hdirect' (follow_of_folder hfolder)
    have htarget : dir = e.target s.volume.disk := hdir.trans (destination_congr hgrown.here _)
    constructor
    · intro l
      rw [hreplaces, hinstalled, ← htarget]
      simp only [List.mem_map, exists_exists_and_eq_and]
      refine exists_congr fun x => and_congr_right fun hx => ?_
      obtain ⟨_, _, hgenuine⟩ := h.genuine x hx
      have hname : x.outcome.filename = x.descriptor.filename := hgenuine.filename
      rw [hname]
    · -- the way goes straight down to the directory, and the entries lie below
      have hclear : ∀ l ∈ made.disk.way e.config.targetDir, ∀ x ∈ done,
          l ≠ dir.entry x.descriptor.filename := by
        rintro l hl x - rfl
        exact not_prefix_of_child _ _ (hdir ▸ hdirect'.prefix_of_way hl)
      have hsame := (folder_congr hplaced.here fun l hl => hplaced.kept l (hclear l hl)).2
      intro l hl hreplaced
      obtain ⟨x, hx, heq⟩ := (hreplaces l).1 hreplaced
      exact hclear l (hsame ▸ hl) x hx heq

end Placement

/-! ### All artifacts after a run -/

/-- What has become of the artifacts of a manifest in a run from `s` to `t` with the report `r`. -/
structure Keeps (e : Engine) (s t : Session) (r : Report) (m : Manifest) : Prop where
  /-- An artifact has its content just if no entry that was replaced lies on the way of the directory,
  and it was installed, or no such entry lies on its own way. -/
  holds_iff : ∀ d ∈ m.artifacts,
    (t.volume.disk.Holds (e.config.targetDir.join d.filename) d.hash ↔
      (∀ l ∈ t.volume.disk.way e.config.targetDir, ¬ e.Replaces s r l) ∧
        ((∃ o ∈ r.installed, o.filename = d.filename) ∨
          ∀ l ∈ s.volume.disk.way (e.config.targetDir.join d.filename), ¬ e.Replaces s r l))
  /-- The first can only be missed where a directory is reached through links or `..`. -/
  direct : s.volume.disk.Direct e.config.targetDir.trail →
    (∀ l, e.Replaces s r l ↔
      ∃ o ∈ r.installed, l = (e.target s.volume.disk).entry o.filename) ∧
    ∀ l ∈ t.volume.disk.way e.config.targetDir, ¬ e.Replaces s r l

/-- **After a verified run without errors an artifact has its content just if the directory is still
reached, and the artifact was installed, or nothing that was installed lies on its way.** -/
theorem holds_after_success_iff (e : Engine) (net : Network) (draw : Draw) (s : Session)
    (hverify : e.config.verifyIntegrity = true) (hdisk : s.volume.disk.WellFormed)
    (hsuccess : (e.run net draw s).2.IsSuccess) :
    ∃ m, (fetchManifest net s.asked e.config.baseUrl).2 = .ok m ∧
      e.Keeps s (e.run net draw s).1 (e.run net draw s).2 m := by
  cases hrun : e.run net draw s with
  | mk t r =>
    rw [hrun] at hsuccess
    obtain ⟨m, inventory, hm, hscan, hall, hnames⟩ := exists_of_success hrun hsuccess
    obtain ⟨done, hinstalled, hlisted, hplacement⟩ := run_placement hdisk hrun hsuccess hm
    refine ⟨m, hm, fun d hd => ?_, hplacement.apart_of_direct hinstalled hdisk⟩
    by_cases hin : ∃ o ∈ r.installed, o.filename = d.filename
    · rw [and_iff_left (.inl hin)]
      obtain ⟨o, ho, hname⟩ := hin
      obtain ⟨x, hx, rfl⟩ := List.mem_map.1 (hinstalled ▸ ho)
      obtain ⟨_, _, hgenuine⟩ := hplacement.genuine x hx
      obtain rfl := Manifest.eq_of_filename_eq (hlisted x hx) hd (hgenuine.filename.symm.trans hname)
      exact hplacement.holds_iff_of_installed hinstalled hverify hx
    · -- an artifact that was not installed was up to date
      rw [or_iff_right hin]
      have hkeep : fate inventory e.config.filter d = .keep :=
        Plan.fate_eq_keep_of_not_mem hd (hall d hd) (hnames ▸ fun hmem => hin (List.mem_map.1 hmem))
      exact hplacement.holds_iff_of_found hrun hm hinstalled hlisted hdisk hverify hscan
        (fate_eq_keep_iff.1 hkeep).2

end Engine

/-! ### An artifact that is a link to another -/

/-- A server with two artifacts, the second of them empty. -/
def Network.aliased : Network :=
  .ofRoutes true [
    { url := "http://[::1]/api/mods-manifest"
      body := utf8 ("\x7b\"success\":true,\"mods\":[[\"blockcraft-a.jar\","
        ++ "\"a9993e364706816aba3e25717850c26c9cd0d89d\",\"http://[::1]/a\"],"
        ++ "[\"blockcraft-b.jar\",\"da39a3ee5e6b4b0d3255bfef95601890afd80709\","
        ++ "\"http://[::1]/b\"]]\x7d") },
    { url := "http://[::1]/b" }]

/-- The first artifact is a link to the second, which holds the first one's content. -/
def Session.aliased : Session where
  volume := { disk := { entries := [
    ([utf8 "mods"], .directory),
    ([utf8 "mods", utf8 "blockcraft-a.jar"], .link (utf8 "blockcraft-b.jar")),
    ([utf8 "mods", utf8 "blockcraft-b.jar"], .file { bytes := utf8 "abc" })] } }

namespace Engine

theorem success_aliased : (sample.run .aliased .sample .aliased).2.IsSuccess := by decide +kernel

theorem holds_after_success_aliased : Session.aliased.volume.disk.WellFormed ∧
    (sample.run .aliased .sample .aliased).2.IsSuccess ∧
    ∃ m, (fetchManifest .aliased Session.aliased.asked sample.config.baseUrl).2 = .ok m ∧
      sample.Keeps .aliased (sample.run .aliased .sample .aliased).1
        (sample.run .aliased .sample .aliased).2 m := by
  have hdisk : Session.aliased.volume.disk.WellFormed := by decide +kernel
  exact ⟨hdisk, success_aliased, holds_after_success_iff _ _ _ _ rfl hdisk success_aliased⟩

/-- The first artifact was up to date, the run reports no error, and the first artifact is lost. -/
theorem not_holds_aliased : (sample.run .aliased .sample .aliased).2.IsSuccess ∧
    ∃ m, (fetchManifest .aliased Session.aliased.asked sample.config.baseUrl).2 = .ok m ∧
      ∃ d ∈ m.artifacts,
        Session.aliased.volume.disk.Holds (sample.config.targetDir.join d.filename) d.hash ∧
        ¬ (sample.run .aliased .sample .aliased).1.volume.disk.Holds
          (sample.config.targetDir.join d.filename) d.hash := by
  have hlost : ((fetchManifest .aliased Session.aliased.asked sample.config.baseUrl).2.toOption.any
      fun m => m.artifacts.any fun d =>
        Session.aliased.volume.disk.Holds (sample.config.targetDir.join d.filename) d.hash ∧
        ¬ (sample.run .aliased .sample .aliased).1.volume.disk.Holds
          (sample.config.targetDir.join d.filename) d.hash) = true := by decide +kernel
  refine ⟨success_aliased, ?_⟩
  cases hm : (fetchManifest .aliased Session.aliased.asked sample.config.baseUrl).2 with
  | error fault => simp [hm, Except.toOption] at hlost
  | ok m =>
    rw [hm] at hlost
    obtain ⟨d, hd, hcase⟩ := List.any_eq_true.1 hlost
    exact ⟨m, rfl, d, hd, of_decide_eq_true hcase⟩

end Engine

end FolderSync
