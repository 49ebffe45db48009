import FolderSync.Fetch
import FolderSync.Install
import FolderSync.Plan

/-!
# The engine

An `Engine` brings a directory in line with a server's manifest.  `Engine.plan` says what would be
done; `Engine.run` does it, each artifact by itself, and reports what was installed and what failed.
Nothing is ever taken away from the directory.
-/

namespace FolderSync

/-- A configuration that can be used. -/
structure Engine where
  config : Config
  usable : config.Usable
deriving DecidableEq

/-- What a run did. -/
structure Report where
  installed : List Installed := []
  upToDate : Nat := 0
  skipped : List String := []
  errors : List SyncError := []
deriving DecidableEq

namespace Report

/-- The report of a run that failed before anything could be installed. -/
def failure (e : SyncError) : Report := { errors := [e] }

/-- Number of artifacts that were installed. -/
def applied (r : Report) : Nat := r.installed.length

/-- Did nothing fail? -/
def IsSuccess (r : Report) : Prop := r.errors = []

instance (r : Report) : Decidable r.IsSuccess :=
  decidable_of_iff (r.errors.isEmpty = true) List.isEmpty_iff

/-- The report with the result for one more artifact. -/
def add (r : Report) : Except SyncError Installed → Report
  | .ok outcome => { r with installed := r.installed ++ [outcome] }
  | .error e => { r with errors := r.errors ++ [e] }

end Report

namespace Engine

/-- The engine of a configuration, if it can be used. -/
def ofConfig (c : Config) : Except SyncError Engine :=
  match h : c.fault? with
  | none => .ok ⟨c, h⟩
  | some fault => .error (.config fault)

/-- Compares a manifest with the directory. -/
def planFor (e : Engine) (m : Manifest) (d : Disk) : Except SyncError Plan :=
  match d.scan e.config.filter e.config.targetDir with
  | .error fault => .error (.file fault)
  | .ok inventory => .ok (Plan.between m inventory e.config.filter)

/-- Asks for the manifest and compares it with the directory. -/
def survey (e : Engine) (net : Network) (s : Session) :
    Session × Except SyncError (Manifest × Plan) :=
  match fetchManifest net s.asked e.config.baseUrl with
  | (asked, .error fault) => ({ s with asked }, .error fault)
  | (asked, .ok m) =>
    match e.planFor m s.volume.disk with
    | .error fault => ({ s with asked }, .error fault)
    | .ok p => ({ s with asked }, .ok (m, p))

/-- What a run would do. -/
def plan (e : Engine) (net : Network) (s : Session) : Session × Except SyncError Plan :=
  match e.survey net s with
  | (s, .error fault) => (s, .error fault)
  | (s, .ok (_, p)) => (s, .ok p)

/-- Installs one artifact of the manifest and adds the result to the report. -/
def installNamed (e : Engine) (net : Network) (draw : Draw) (m : Manifest)
    (state : Session × Report) (name : String) : Session × Report :=
  match m.get? name with
  | none => state
  | some d =>
    let (s, result) :=
      install net draw e.config.verifyIntegrity d e.config.targetDir state.1
    (s, state.2.add result)

/-- The report before anything is installed. -/
def opening (e : Engine) (p : Plan) : Report where
  upToDate := p.upToDate.size
  skipped := p.skipped.names
  errors := p.skipped.names.map fun name => .manifest (.outsideFilter name e.config.filter)

/-- Brings the directory in line with the manifest. -/
def run (e : Engine) (net : Network) (draw : Draw) (s : Session) : Session × Report :=
  match e.survey net s with
  | (s, .error fault) => (s, .failure fault)
  | (s, .ok (m, p)) => p.actionable.foldl (e.installNamed net draw m) (s, e.opening p)

end Engine

end FolderSync
