import FolderSync.Proofs.Disk.Direct
import FolderSync.Proofs.Volume

/-!
# The folder of a path

However a path is written, the names behind it stand in one directory: its folder (`Disk.folder`).
It is the same for the path made absolute (`folder_absolute`), and it is where the path leads, unless
the path is empty (`locate_of_folder`).

* `folder_congr`: disks that agree on the way of a path agree on its folder.
* `walk_join`, `entryLocation_join_iff`: a name behind a path is sought in the folder.
-/

namespace FolderSync

namespace Disk

/-- The directory in which names behind the path stand. -/
def folder (d : Disk) (p : Path) : Except Cause Location :=
  d.walk true linkLimit (d.start p.trail) (p.trail.steps ++ [.stay])

variable {d e : Disk} {p : Path} {dir : Location} {name : String}

theorem directory_of_folder (hdisk : d.WellFormed) (h : d.folder p = .ok dir) :
    d.find? dir = some .directory :=
  directory_of_walk_stay hdisk (hdisk.find?_start _) h

/-- The folder of a path that never goes up, if a directory stands where its names say. -/
theorem folder_eq (hdisk : d.WellFormed) (hup : Step.up ∉ p.trail.steps)
    (hdir : d.find? (d.destination p.trail) = some .directory) :
    d.folder p = .ok (d.destination p.trail) := by
  rw [folder, walk_append_of_directory hdisk hup hdir, walk_cons_stay, walk_nil]
  rfl

/-- Made absolute, a path has the same folder. -/
theorem folder_absolute (hdisk : d.WellFormed) (p : Path) : d.folder (d.absolute p) = d.folder p := by
  cases hp : p.isAbsolute with
  | true => rw [absolute_of_isAbsolute hp]
  | false =>
    obtain ⟨hroot, hsteps, hhere⟩ := start_absolute hdisk hp
    have hup : Step.up ∉ d.here.map Step.into := by simp
    have hdir : d.find? ([] ++ namesOf (d.here.map Step.into)) = some .directory := by
      rw [namesOf_map_into, List.nil_append, hdisk.here]
    rw [folder, folder, hroot, hsteps, hhere, List.append_assoc]
    simpa using walk_append_of_directory hdisk hup hdir (p.trail.steps ++ [.stay])

/-- The locations that decide where a path's folder is are those of its way. -/
theorem way_eq (d : Disk) (p : Path) :
    d.way p = d.passed true linkLimit (d.start p.trail) (p.trail.steps ++ [.stay]) := by
  unfold way
  cases p.trail.slash
  · simp [passed_concat_stay]
  · simp

/-- A path leads to its folder. -/
theorem follow_of_folder (h : d.folder p = .ok dir) : d.follow true p.trail = .ok dir := by
  rw [follow]
  cases p.trail.slash
  · simpa using walk_of_walk_stay h
  · exact h

theorem locate_of_folder (hopens : p.Opens) (h : d.folder p = .ok dir) : d.locate p = .ok dir := by
  rw [locate_eq hopens]
  exact follow_of_folder h

/-- A path that leads to a directory has it for its folder. -/
theorem folder_of_locate (h : d.locate p = .ok dir) (hdir : d.find? dir = some .directory) :
    d.folder p = .ok dir := by
  rw [locate_eq (opens_of_locate h), follow] at h
  cases hslash : p.trail.slash with
  | false =>
    rw [hslash] at h
    exact walk_stay_of_walk (by simpa using h) hdir
  | true =>
    rw [hslash] at h
    exact h

theorem folder_of_isDirectory (h : d.isDirectory p = true) : p.Opens ∧ ∃ dir, d.folder p = .ok dir := by
  unfold isDirectory at h
  split at h
  · rename_i hstatus
    obtain ⟨dir, hlocate, hdir⟩ := status_eq_ok_iff.1 hstatus
    exact ⟨opens_of_locate hlocate, dir, folder_of_locate hlocate hdir⟩
  · cases h

/-- Disks that agree on the way of a path agree on its folder. -/
theorem folder_congr (hhere : e.here = d.here) (h : ∀ l ∈ d.way p, e.find? l = d.find? l) :
    e.folder p = d.folder p ∧ e.way p = d.way p := by
  rw [way_eq] at h
  rw [way_eq, way_eq, folder, folder, start_of_here hhere]
  exact congr_of_passed h

/-- On the way to its folder something stands everywhere. -/
theorem find?_ne_none_of_way (h : d.folder p = .ok dir) {l : Location} (hl : l ∈ d.way p) :
    d.find? l ≠ none :=
  find?_ne_none_of_passed h (way_eq d p ▸ hl)

/-- Where more stands, and nothing else has changed, the folder is the same. -/
theorem folder_of_kept (h : d.folder p = .ok dir) (hhere : e.here = d.here)
    (hkept : ∀ l, d.find? l ≠ none → e.find? l = d.find? l) : e.folder p = .ok dir := by
  rw [(folder_congr hhere fun l hl => hkept l (find?_ne_none_of_way h hl)).1, h]

/-- On the way to its folder a path meets directories and links. -/
theorem directory_or_link_of_way (hdisk : d.WellFormed) (h : d.folder p = .ok dir) {l : Location}
    (hl : l ∈ d.way p) : d.find? l = some .directory ∨ ∃ target, d.find? l = some (.link target) :=
  directory_or_link_of_passed hdisk (hdisk.find?_start _) h (way_eq d p ▸ hl)

/-- **A name behind a path is sought in the path's folder,** with some links less, on all disks that show
the same on the way of the path. -/
theorem walk_join_congr (h : d.folder p = .ok dir) :
    ∃ links, ∀ e : Disk, e.here = d.here → (∀ l ∈ d.way p, e.find? l = d.find? l) →
      ∀ name, Name.Proper (utf8 name) →
        (∀ last, e.follow last (p.join name).trail = e.walk last links dir [.into (utf8 name)]) ∧
          e.way (p.join name) = d.way p ++ e.passed true links dir [.into (utf8 name)] := by
  obtain ⟨links, -, hwalk⟩ := walk_append_congr h
  refine ⟨links, fun e hhere he name hname => ?_⟩
  rw [way_eq d p] at he ⊢
  have hbehind := hwalk e he [.into (utf8 name)] (by simp)
  constructor
  · intro last
    rw [follow, start_join p hname, Path.trail_join p hname, start_of_here hhere]
    simpa using (hbehind last).1
  · rw [way, start_join p hname, Path.trail_join p hname, start_of_here hhere]
    simpa using (hbehind true).2

theorem walk_join (h : d.folder p = .ok dir) (hname : Name.Proper (utf8 name)) (last : Bool) :
    ∃ links, d.follow last (p.join name).trail = d.walk last links dir [.into (utf8 name)] := by
  obtain ⟨links, hjoin⟩ := walk_join_congr h
  exact ⟨links, (hjoin d rfl (fun _ _ => rfl) name hname).1 last⟩

/-- Where a name behind a path leads somewhere, the path has a folder. -/
theorem exists_folder_of_locate_join (hname : Name.Proper (utf8 name)) {loc : Location}
    (h : d.locate (p.join name) = .ok loc) : ∃ dir, d.folder p = .ok dir := by
  rw [locate_eq (opens_of_locate h), follow, start_join p hname, Path.trail_join p hname] at h
  exact exists_walk_stay (List.cons_ne_nil (.into (utf8 name)) []) (by simpa using h)

/-- A file under a name in the folder is what the name behind the path leads to. -/
theorem status_join_of_folder (hname : Name.Proper (utf8 name)) (hopens : (p.join name).Opens)
    (hshort : (utf8 name).length ≤ nameLimit) (h : d.folder p = .ok dir) {c : Content}
    (hfile : d.find? (dir ++ [utf8 name]) = some (.file c)) :
    d.status (p.join name) = .ok (.file c) := by
  obtain ⟨links, hfollow⟩ := walk_join h hname true
  have hthere : d.locate (p.join name) = .ok (dir ++ [utf8 name]) := by
    rw [locate_eq hopens]
    exact hfollow.trans (walk_arrive hshort hfile)
  exact status_eq_ok_iff.2 ⟨_, hthere, hfile⟩

end Disk

namespace Volume

variable {v : Volume} {p : Path} {name : String} {loc dir : Location}

/-- The place of a name behind a path is in the path's folder. -/
theorem entryLocation_join_eq (hname : Name.Proper (utf8 name)) (hopens : (p.join name).Opens) :
    v.entryLocation (p.join name) =
      match v.disk.folder p with
      | .error cause => .error cause
      | .ok dir => if nameLimit < (utf8 name).length then .error .nameTooLong
          else .ok (dir ++ [utf8 name]) := by
  unfold entryLocation Disk.slot Disk.folder
  rw [hopens.open?_eq]
  dsimp only
  rw [Disk.start_join p hname, Path.trail_join p hname]
  simp only [List.getLast?_concat, List.dropLast_concat]
  cases v.disk.walk true linkLimit (v.disk.start p.trail) (p.trail.steps ++ [.stay]) with
  | error cause => rfl
  | ok dir => by_cases hlen : nameLimit < (utf8 name).length <;> simp [hlen]

/-- Where the folder is there, only the name and the length of the path can stand in the way. -/
theorem entryLocation_join_of_folder (hname : Name.Proper (utf8 name)) (h : v.disk.folder p = .ok dir) :
    v.entryLocation (p.join name) =
      match p.obstacle? name with
      | some cause => .error cause
      | none => .ok (dir ++ [utf8 name]) := by
  unfold Path.obstacle? Path.refusal?
  cases hopen : (p.join name).open? with
  | error cause => rw [entryLocation, hopen]
  | ok t =>
    rw [entryLocation_join_eq hname (Path.open?_eq_ok_iff.1 hopen).1, h]
    by_cases hlen : nameLimit < (utf8 name).length <;> simp [hlen]

theorem entryLocation_join_iff (hname : Name.Proper (utf8 name)) :
    v.entryLocation (p.join name) = .ok loc ↔ (p.join name).Opens ∧ (utf8 name).length ≤ nameLimit ∧
      ∃ dir, v.disk.folder p = .ok dir ∧ loc = dir ++ [utf8 name] := by
  by_cases hopens : (p.join name).Opens
  · rw [entryLocation_join_eq hname hopens]
    cases v.disk.folder p with
    | error cause => simp
    | ok dir =>
      by_cases hlen : nameLimit < (utf8 name).length
      · simp [hlen, Nat.not_le.2 hlen]
      · simp [hlen, Nat.not_lt.1 hlen, hopens, eq_comm]
  · exact iff_of_false (fun h => hopens (opens_of_entryLocation h)) fun h => hopens h.1

end Volume

end FolderSync
