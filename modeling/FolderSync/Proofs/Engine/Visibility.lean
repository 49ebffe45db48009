import FolderSync.Proofs.Directory.Landing
import FolderSync.Proofs.Engine.Run
import FolderSync.Proofs.Inventory

/-!
# Is an installed artifact seen again?

An install puts an artifact into the folder of the engine's path, a scan follows the path.  The scan
finds what was just installed, unless the path is empty, its directory cannot be listed, or the artifact
was put in the place of an entry on the way to the directory itself (`install_visible`).

* `Landed.apart_of_visible`, `Landed.visible_of_apart`: the two directions.
* `not_visible_unplaced`: an install into the empty path.
-/

namespace FolderSync

/-! ### What is seen of it -/

namespace Landed

variable {made after : Disk} {p : Path} {name : String} {dir : Location} {body : Bytes} {f : Filter}

/-- A scan that finds the name has listed the folder and not passed the artifact on its way. -/
theorem apart_of_visible (h : Landed made after p name dir body) {inv : Inventory}
    {hash : ContentHash} (hscan : after.scan f p = .ok inv) (hget : inv.get? name = some hash) :
    p.bytes ≠ [] ∧ (∃ listed, after.list? dir = .ok listed) ∧ dir.entry name ∉ after.way p := by
  obtain ⟨loc, listed, hlocate, hdir, hlist, -⟩ := Disk.get?_scan hscan hget
  have hopens := Disk.opens_of_locate hlocate
  have hapart : dir.entry name ∉ after.way p := by
    intro hway
    -- the path would end at the artifact, which is no directory
    rw [Disk.locate_eq hopens] at hlocate
    have hloc := Disk.eq_of_file_passed hlocate hway h.find?_entry
    rw [hloc, h.find?_entry] at hdir
    cases hdir
  have hfolder := Disk.locate_of_folder hopens (h.folder_of_apart hapart)
  obtain rfl := Except.ok.inj (hlocate.symm.trans hfolder)
  exact ⟨hopens.ne_nil, ⟨listed, hlist⟩, hapart⟩

/-- A scan that lists the folder and does not pass the artifact on its way finds it. -/
theorem visible_of_apart (h : Landed made after p name dir body) (hdisk : made.WellFormed)
    (plain : nameFault? name = none) (hmatch : f.Matches name) (hp : p.bytes ≠ [])
    {listed : List (Except Cause Name)} (hlist : after.list? dir = .ok listed)
    (hway : dir.entry name ∉ after.way p) :
    ∃ inv, after.scan f p = .ok inv ∧ inv.get? name = some (.of body) := by
  have hproper := proper_of_plain plain
  have hopens : p.Opens := h.opens.of_join hp hproper.noSlash
  have hfolder := h.folder_of_apart hway
  have hlocate := Disk.locate_of_folder hopens hfolder
  have hdir : after.find? dir = some .directory := by
    rw [h.find?_of_ne (ne_child_of_way List.prefix_rfl (utf8 name))]
    exact Disk.directory_of_folder hdisk h.folder
  have hscan : after.scan f p = .ok (.ofList (listed.filterMap (after.managed? f p))) := by
    unfold Disk.scan
    simp only [hlocate, hdir, hlist]
  refine ⟨_, hscan, (Disk.get?_scan_iff_of_locate hscan hlocate hdir).2 ⟨?_, hmatch, ?_⟩⟩
  · rw [← Location.entry, h.find?_entry]
    simp
  · exact Disk.holds_iff.2
      ⟨body, Disk.status_join_of_folder hproper h.opens h.short hfolder h.find?_entry, rfl⟩

/-- Unless a link stood in the artifact's place, the artifact is not on the way to its directory. -/
theorem apart_of_noLink (h : Landed made after p name dir body) {before : Disk}
    (hgrown : before.Grown made) (hlink : ∀ target, before.find? (dir.entry name) ≠ some (.link target)) :
    dir.entry name ∉ after.way p := by
  have hapart : dir.entry name ∉ made.way p := by
    intro hway
    rcases Disk.directory_or_link_of_way hgrown.wellFormed h.folder hway with hdir | ⟨target, htarget⟩
    · exact h.free hdir
    · rcases hgrown.find? (dir.entry name) with hsame | ⟨-, hmade⟩
      · exact hlink target (hsame ▸ htarget)
      · exact h.free hmade
  rw [(Disk.folder_congr h.here fun l hl => h.find?_of_ne fun heq => hapart (heq ▸ hl)).2]
  exact hapart

end Landed

namespace Engine

/-- How an artifact that was installed by way of the engine's path stands to the next scan. -/
structure Seen (e : Engine) (d : Descriptor) (s t : Session) (o : Installed) (dir : Location) : Prop
    where
  /-- The last change gives the artifact its name in `dir`. -/
  promoted : ∃ hidden, t.volume.journal.getLast? = some (.rename hidden (dir.entry d.filename))
  content : ∃ bytes, t.volume.disk.find? (dir.entry d.filename) = some (.file { bytes }) ∧
    o.hash = .of bytes
  /-- A scan finds it if it can list `dir` and does not look at the artifact as a part of its own
  way. -/
  found : (∃ inventory, t.volume.disk.scan e.config.filter e.config.targetDir = .ok inventory ∧
      inventory.get? d.filename = some o.hash) ↔
    e.config.targetDir.bytes ≠ [] ∧ (∃ listed, t.volume.disk.list? dir = .ok listed) ∧
      dir.entry d.filename ∉ t.volume.disk.way e.config.targetDir
  /-- It only does that if a link stood in the artifact's place. -/
  apart : (∀ target, s.volume.disk.find? (dir.entry d.filename) ≠ some (.link target)) →
    dir.entry d.filename ∉ t.volume.disk.way e.config.targetDir

/-- **A scan finds what was just installed, unless the path is empty, leads through it, or leads to a
directory that cannot be listed.** -/
theorem install_visible (e : Engine) (net : Network) (draw : Draw) (d : Descriptor) {s t : Session}
    {o : Installed} (hmatch : e.config.filter.Matches d.filename) (hdisk : s.volume.disk.WellFormed)
    (hinstall : install net draw e.config.verifyIntegrity d e.config.targetDir s = (t, .ok o)) :
    ∃ dir, e.Seen d s t o dir := by
  obtain ⟨made, dir, body, hmade, hgenuine, hlanded, hlast⟩ := install_landed hdisk hinstall
  have hgrown := Volume.ensurePath_grown hdisk e.config.targetDir
  rw [hmade] at hgrown
  refine ⟨dir, hlast, ⟨body, hlanded.find?_entry, hgenuine.hash⟩, ?_, hlanded.apart_of_noLink hgrown⟩
  constructor
  · rintro ⟨inventory, hscan, hget⟩
    exact hlanded.apart_of_visible hscan hget
  · rintro ⟨htarget, ⟨listed, hlist⟩, hway⟩
    rw [hgenuine.hash]
    exact hlanded.visible_of_apart hgrown.wellFormed d.nameFault?_filename hmatch htarget hlist hway

end Engine

/-! ### The empty path -/

/-- An artifact without content. -/
def Descriptor.sample : Descriptor :=
  (Descriptor.of "blockcraft-b.jar" "da39a3ee5e6b4b0d3255bfef95601890afd80709"
    "http://[::1]/b").toOption.get (by decide +kernel)

/-- A server with that artifact. -/
def Network.hollow : Network := .ofRoutes true [{ url := "http://[::1]/b" }]

namespace Engine

/-- An engine whose directory is the empty path. -/
def unplaced : Engine where
  config := { baseUrl := "http://[::1]", targetDir := ⟨[]⟩ }
  usable := by decide +kernel

/-- What is reported of the artifact, if it is installed. -/
def installedSample (e : Engine) : Installed :=
  ⟨"blockcraft-b.jar", e.config.targetDir.join "blockcraft-b.jar", 0, .of []⟩

theorem install_visible_sample : sample.config.filter.Matches Descriptor.sample.filename ∧
    Session.sample.volume.disk.WellFormed ∧
    ∃ t, install .hollow .sample sample.config.verifyIntegrity .sample sample.config.targetDir
        .sample = (t, .ok sample.installedSample) ∧
      ∃ dir, sample.Seen .sample .sample t sample.installedSample dir := by
  have hmatch : sample.config.filter.Matches Descriptor.sample.filename := by decide +kernel
  have hok : (install .hollow .sample sample.config.verifyIntegrity .sample sample.config.targetDir
      .sample).2 = .ok sample.installedSample := by decide +kernel
  obtain ⟨t, hinstall⟩ : ∃ t, install .hollow .sample sample.config.verifyIntegrity .sample
      sample.config.targetDir .sample = (t, .ok sample.installedSample) := ⟨_, Prod.ext rfl hok⟩
  exact ⟨hmatch, Session.wellFormed_sample, t, hinstall,
    install_visible _ _ _ _ hmatch Session.wellFormed_sample hinstall⟩

/-- An artifact that is installed into the empty path is not seen again. -/
theorem not_visible_unplaced : unplaced.config.filter.Matches Descriptor.sample.filename ∧
    (install .hollow .sample unplaced.config.verifyIntegrity .sample unplaced.config.targetDir
      {}).2 = .ok unplaced.installedSample ∧
    (install .hollow .sample unplaced.config.verifyIntegrity .sample unplaced.config.targetDir
      {}).1.volume.disk.scan unplaced.config.filter unplaced.config.targetDir = .ok .empty := by
  decide +kernel

end Engine

end FolderSync
