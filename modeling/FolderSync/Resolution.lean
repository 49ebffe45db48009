import FolderSync.Error

/-!
# The configuration in effect

`resolve` settles which configuration is followed: what was asked for explicitly comes before what
the configuration file says, and that before the defaults.  The file is the one asked for, which
must be there, or else the one at the usual place, if there is such a place; that file need not be there.
-/

namespace FolderSync

/-- What was asked for explicitly. -/
structure Overrides where
  file : Option Path := none
  baseUrl : Option String := none
  targetDir : Option Path := none
deriving DecidableEq, Repr

namespace Overrides

/-- The configuration with everything that was asked for. -/
def apply (o : Overrides) (c : Config) : Config :=
  { c with baseUrl := o.baseUrl.getD c.baseUrl, targetDir := o.targetDir.getD c.targetDir }

/-- The configuration file to be read, if there is one. -/
def file? (o : Overrides) (configHome : Option Path) (d : Disk) : Option Path :=
  match o.file with
  | some p => some p
  | none => (Config.defaultPath configHome).filter d.isFile

end Overrides

/-- Why there is no configuration to follow. -/
inductive ResolutionFault where
  /-- The configuration file cannot be used. -/
  | unreadable (e : SyncError)
  /-- No server is named. -/
  | noServer
deriving DecidableEq

/-- The words for the reason. -/
def ResolutionFault.message : ResolutionFault → String
  | .unreadable e => e.message
  | .noServer => "No server configured. Pass --base-url or set base_url in the config file."

/-- The configuration of the file to be read; without one, the defaults. -/
def Config.base (home : Path) (configHome : Option Path) (d : Disk) (o : Overrides) :
    Except SyncError Config :=
  match o.file? configHome d with
  | some p => Config.load home d p
  | none => .ok (Config.default home)

/-- The configuration in effect. -/
def Config.resolve (home : Path) (configHome : Option Path) (d : Disk) (o : Overrides) :
    Except ResolutionFault Config :=
  match Config.base home configHome d o with
  | .error e => .error (.unreadable e)
  | .ok c =>
    if Text.IsBlank (o.apply c).baseUrl then .error .noServer else .ok (o.apply c)

end FolderSync
