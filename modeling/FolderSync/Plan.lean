import FolderSync.Inventory
import FolderSync.Json.Printer
import FolderSync.Manifest

/-!
# Plans

A plan says what is to be done with each artifact of a manifest: install it, update it, leave it as
it is, or skip it because the filter does not accept its name.  `Plan.between` compares a manifest
with an inventory; the plan's work is `Plan.actionable`, and a plan without work is converged.
-/

namespace FolderSync

/-- What is to be done, by name. -/
structure Plan where
  toInstall : NameSet := .empty
  toUpdate : NameSet := .empty
  upToDate : NameSet := .empty
  skipped : NameSet := .empty
deriving DecidableEq

namespace Plan

/-- The plan with the work for one more artifact. -/
def add (inventory : Inventory) (f : Filter) (p : Plan) (d : Descriptor) : Plan :=
  if ¬ f.Matches d.filename then { p with skipped := p.skipped.add d.filename }
  else match inventory.get? d.filename with
    | none => { p with toInstall := p.toInstall.add d.filename }
    | some hash =>
      if hash = d.hash then { p with upToDate := p.upToDate.add d.filename }
      else { p with toUpdate := p.toUpdate.add d.filename }

/-- Compares a manifest with an inventory. -/
def between (m : Manifest) (inventory : Inventory) (f : Filter) : Plan :=
  m.artifacts.foldl (add inventory f) {}

/-- The names to be fetched: those to install, then those to update. -/
def actionable (p : Plan) : List String := p.toInstall.names ++ p.toUpdate.names

/-- Number of names to be fetched. -/
def work (p : Plan) : Nat := p.toInstall.size + p.toUpdate.size

/-- Is there nothing to be fetched? -/
def IsConverged (p : Plan) : Prop := p.work = 0

instance (p : Plan) : Decidable p.IsConverged := inferInstanceAs (Decidable (p.work = 0))

/-- The names of a set as a list of texts. -/
def namesJson (s : NameSet) : Json := .array (s.names.map .string)

/-- The plan as a JSON object. -/
def toJson (p : Plan) : Json :=
  .object [
    ("to_install", namesJson p.toInstall),
    ("to_update", namesJson p.toUpdate),
    ("up_to_date", namesJson p.upToDate),
    ("skipped", namesJson p.skipped)]

/-- The plan in writing. -/
def text (p : Plan) : String := p.toJson.pretty

end Plan

end FolderSync
