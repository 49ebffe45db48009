import FolderSync.Toml.Basic

/-!
# Tables that grow

A TOML document is built line by line: a header opens a section, and the lines below it put values
under keys, which may lead through further tables.  `Node` is what stands under a key meanwhile.
The rule is that nothing is defined twice.  A table that is only passed through by a header may
still get a section of its own, and one that is made by dotted keys may still get more dotted keys
in the same section; all others are complete when they are written.
-/

namespace FolderSync.Toml

/-- How a table came about: by a section of its own or a value, only on the way to another section,
or by dotted keys. -/
inductive Origin where
  | own
  | passed
  | dotted
deriving DecidableEq, Repr

/-- What stands under a key of a growing document. -/
inductive Node where
  | value (v : Toml)
  | table (origin : Origin) (entries : List (String × Node))
  /-- A list of sections under one key; the latest comes first. -/
  | sections (latestFirst : List (List (String × Node)))

/-- What stands under the keys of a table, in order. -/
abbrev Entries := List (String × Node)

namespace Entries

/-- What stands under a key. -/
def get? (key : String) (entries : Entries) : Option Node := entries.lookup key

/-- Puts a node under a key, in place of the old one or behind all others. -/
def set (key : String) (node : Node) (entries : Entries) : Entries :=
  if entries.any fun p => p.1 = key then
    entries.map fun p => if p.1 = key then (key, node) else p
  else entries ++ [(key, node)]

/-- Takes a key away. -/
def erase (key : String) (entries : Entries) : Entries := entries.filter fun p => p.1 ≠ key

/-- Puts a value under a key that may lead through tables.  On the way a table of another section
may be passed, but the last one must be new or made by dotted keys. -/
def define (key : String) (v : Toml) : List String → Entries → Option Entries
  | [], entries =>
    match get? key entries with
    | none => some (set key (.value v) entries)
    | some _ => none
  | step :: more, entries =>
    match get? step entries with
    | none => (define key v more []).map fun inner => set step (.table .dotted inner) entries
    | some (.table origin inner) =>
      if origin = .own ∨ (more = [] ∧ origin ≠ .dotted) then none
      else (define key v more inner).map fun inner => set step (.table origin inner) entries
    | some (.sections (latest :: earlier)) =>
      if more = [] then none
      else (define key v more latest).map fun latest =>
        set step (.sections (latest :: earlier)) entries
    | some (.sections []) => none
    | some (.value _) => none

/-- Changes the table to which a header's path leads; missing tables are made on the way. -/
def alter (change : Entries → Option (α × Entries)) : List String → Entries → Option (α × Entries)
  | [], entries => change entries
  | step :: more, entries =>
    match get? step entries with
    | none => (alter change more []).map fun (a, inner) => (a, set step (.table .passed inner) entries)
    | some (.table origin inner) =>
      (alter change more inner).map fun (a, inner) => (a, set step (.table origin inner) entries)
    | some (.sections (latest :: earlier)) =>
      (alter change more latest).map fun (a, latest) =>
        (a, set step (.sections (latest :: earlier)) entries)
    | some (.sections []) => none
    | some (.value _) => none

end Entries

/-! ### Sections -/

/-- The section that is being written: where it goes, whether it is one of a list, and its
entries so far. -/
structure Section where
  path : List String
  key : String
  listed : Bool
  entries : Entries

/-- A document that is being read. -/
structure Document where
  root : Entries := []
  open_ : Option Section := none

namespace Document

/-- Puts a value under a key of the open section. -/
def define (d : Document) (path : List String) (key : String) (v : Toml) : Option Document :=
  match d.open_ with
  | none => (Entries.define key v path d.root).map fun root => { d with root }
  | some s =>
    (Entries.define key v path s.entries).map fun entries =>
      { d with open_ := some { s with entries } }

/-- Puts the open section into its place. -/
def finish (d : Document) : Option Document :=
  match d.open_ with
  | none => some d
  | some s =>
    let change (entries : Entries) : Option (Unit × Entries) :=
      if s.listed then
        match Entries.get? s.key entries with
        | some (.sections earlier) =>
          some ((), Entries.set s.key (.sections (s.entries :: earlier)) entries)
        | _ => none
      else some ((), Entries.set s.key (.table .own s.entries) entries)
    (Entries.alter change s.path d.root).map fun (_, root) => ⟨root, none⟩

/-- Opens a section.  A table that was only passed through is taken over with what it holds. -/
def openTable (d : Document) (path : List String) (key : String) : Option Document := do
  let d ← d.finish
  let (entries, root) ← Entries.alter (fun entries =>
    match Entries.get? key entries with
    | none => some ([], entries)
    | some (.table .passed inner) => some (inner, Entries.erase key entries)
    | some _ => none) path d.root
  return ⟨root, some ⟨path, key, false, entries⟩⟩

/-- Opens one more section of a list. -/
def openListed (d : Document) (path : List String) (key : String) : Option Document := do
  let d ← d.finish
  let (_, root) ← Entries.alter (fun entries =>
    match Entries.get? key entries with
    | none => some ((), Entries.set key (.sections []) entries)
    | some (.sections _) => some ((), entries)
    | some _ => none) path d.root
  return ⟨root, some ⟨path, key, true, []⟩⟩

end Document

/-! ### Completion -/

mutual

/-- The value that a node stands for. -/
def Node.close : Node → Toml
  | .value v => v
  | .table _ entries => .table (closeEntries entries)
  | .sections latestFirst => .array (closeSections latestFirst).reverse

/-- The values under the keys. -/
def closeEntries : List (String × Node) → List (String × Toml)
  | [] => []
  | (key, node) :: more => (key, node.close) :: closeEntries more

/-- The tables of the sections. -/
def closeSections : List (List (String × Node)) → List Toml
  | [] => []
  | entries :: more => .table (closeEntries entries) :: closeSections more

end

/-- The table that a document stands for. -/
def Document.close (d : Document) : Option Toml :=
  d.finish.map fun d => .table (closeEntries d.root)

end FolderSync.Toml
