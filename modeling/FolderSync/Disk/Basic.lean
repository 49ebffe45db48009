import FolderSync.Disk.Cause
import FolderSync.Disk.Path

/-!
# The disk

A disk holds entries at locations; a location is the list of names from the root down.  An entry
is a directory, a file with its content, or a symbolic link.

`Disk.find?` is the view of a disk: what stands at a location.  `Disk.list?` is what a directory
shows of itself: it may refuse, and entries of it may fail to be read.  `Change` is one primitive
change and `Change.apply` its effect; `find?_put` and `find?_erase` say what the view shows
afterwards.
-/

namespace FolderSync

/-- The names from the root down. -/
abbrev Location := List Name

/-- What reading a file gives: its bytes and, after them, possibly a failure. -/
structure Content where
  bytes : Bytes
  fault : Option Cause := none
deriving DecidableEq, Repr

/-- What stands at a location. -/
inductive Entry where
  | directory
  | file (content : Content)
  | link (target : Bytes)
deriving DecidableEq, Repr

/-- The entries below the root, and the directory from which relative paths start. -/
structure Disk where
  here : Location := []
  entries : List (Location × Entry) := []
  /-- The directories that cannot be listed, with the reason. -/
  closed : List (Location × Cause) := []
  /-- What directories list besides their names: entries that cannot be read, each with the reason. -/
  unreadable : List (Location × Cause) := []
deriving DecidableEq, Repr

namespace Disk

/-- What stands at a location; the root is a directory. -/
def find? (d : Disk) (loc : Location) : Option Entry :=
  if loc = [] then some .directory else d.entries.lookup loc

/-- Puts an entry at a location, in place of what stood there. -/
def put (d : Disk) (loc : Location) (e : Entry) : Disk :=
  { d with entries := (loc, e) :: d.entries.filter fun p => p.1 ≠ loc }

/-- Takes away what stands at a location. -/
def erase (d : Disk) (loc : Location) : Disk :=
  { d with entries := d.entries.filter fun p => p.1 ≠ loc }

/-- The name of a location inside a directory, if it lies directly there. -/
def childName? (directory loc : Location) : Option Name :=
  if loc ≠ [] ∧ loc.dropLast = directory then loc.getLast? else none

/-- The names in a directory, in the order in which the disk lists them. -/
def names (d : Disk) (directory : Location) : List Name :=
  d.entries.filterMap fun p => childName? directory p.1

/-- The reasons why entries of a directory cannot be read. -/
def faults (d : Disk) (directory : Location) : List Cause :=
  d.unreadable.filterMap fun p => if p.1 = directory then some p.2 else none

/-- Lists a directory: its names, and the entries that cannot be read. -/
def list? (d : Disk) (directory : Location) : Except Cause (List (Except Cause Name)) :=
  match d.closed.lookup directory with
  | some cause => .error cause
  | none => .ok ((d.faults directory).map .error ++ (d.names directory).map .ok)

theorem lookup_filter_ne {loc other : Location} (h : other ≠ loc) (l : List (Location × Entry)) :
    (l.filter fun p => p.1 ≠ loc).lookup other = l.lookup other := by
  induction l with
  | nil => rfl
  | cons p rest ih =>
    obtain ⟨k, e⟩ := p
    by_cases hk : k = loc
    · subst hk
      have hne : (other == k) = false := by simp [h]
      rw [List.filter_cons_of_neg (by simp), ih]
      rw [List.lookup_cons, hne]
    · rw [List.filter_cons_of_pos (by simpa using hk)]
      rw [List.lookup_cons, List.lookup_cons, ih]

theorem lookup_filter_self (loc : Location) (l : List (Location × Entry)) :
    (l.filter fun p => p.1 ≠ loc).lookup loc = none := by
  induction l with
  | nil => rfl
  | cons p rest ih =>
    obtain ⟨k, e⟩ := p
    by_cases hk : k = loc
    · rw [List.filter_cons_of_neg (by simpa using hk), ih]
    · rw [List.filter_cons_of_pos (by simpa using hk)]
      have hne : (loc == k) = false := by simp [Ne.symm hk]
      rw [List.lookup_cons, hne, ih]

@[simp] theorem here_erase (d : Disk) (loc : Location) : (d.erase loc).here = d.here := rfl

@[simp] theorem closed_erase (d : Disk) (loc : Location) : (d.erase loc).closed = d.closed := rfl

theorem find?_put {d : Disk} {loc : Location} (h : loc ≠ []) (e : Entry) (other : Location) :
    (d.put loc e).find? other = if other = loc then some e else d.find? other := by
  unfold find? put
  by_cases ho : other = []
  · subst ho
    simp [Ne.symm h]
  · by_cases hl : other = loc
    · subst hl
      simp [ho]
    · have hne : (other == loc) = false := by simp [hl]
      simp only [ho, if_false, hl, List.lookup_cons, hne, lookup_filter_ne hl]

theorem find?_erase {d : Disk} {loc : Location} (h : loc ≠ []) (other : Location) :
    (d.erase loc).find? other = if other = loc then none else d.find? other := by
  unfold find? erase
  by_cases ho : other = []
  · subst ho
    simp [Ne.symm h]
  · by_cases hl : other = loc
    · subst hl
      simp only [ho, if_false, if_true, lookup_filter_self]
    · simp only [ho, if_false, hl, lookup_filter_ne hl]

/-- The same entry stands at every location of both disks, and the same directories can be listed. -/
structure Same (d e : Disk) : Prop where
  here : d.here = e.here
  find? : ∀ loc, d.find? loc = e.find? loc
  closed : d.closed = e.closed

theorem Same.refl (d : Disk) : d.Same d := ⟨rfl, fun _ => rfl, rfl⟩

end Disk

/-! ### Primitive changes -/

/-- One primitive change of a disk. -/
inductive Change where
  | makeDirectory (loc : Location)
  | createFile (loc : Location)
  | append (loc : Location) (bytes : Bytes)
  | rename (source target : Location)
  | remove (loc : Location)
deriving DecidableEq, Repr

/-- The effect of a change.  A file that is no longer there takes bytes without effect. -/
def Change.apply (d : Disk) : Change → Disk
  | .makeDirectory loc => d.put loc .directory
  | .createFile loc => d.put loc (.file { bytes := [] })
  | .append loc bytes =>
    match d.find? loc with
    | some (.file content) => d.put loc (.file { content with bytes := content.bytes ++ bytes })
    | _ => d
  | .rename source target =>
    match d.find? source with
    | some e => (d.erase source).put target e
    | none => d
  | .remove loc => d.erase loc

@[simp] theorem Change.closed_apply (d : Disk) (c : Change) : (c.apply d).closed = d.closed := by
  unfold apply
  split
  · rfl
  · rfl
  · split <;> rfl
  · split <;> rfl
  · rfl

/-- The disk after a list of changes. -/
def Disk.replay (d : Disk) (changes : List Change) : Disk := changes.foldl Change.apply d

end FolderSync
