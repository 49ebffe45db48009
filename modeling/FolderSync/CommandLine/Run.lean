import FolderSync.CommandLine.Paint
import FolderSync.Engine

/-!
# Running a command line

`sync` and `check` are the commands; `run` follows a command line and gives what is printed and the
exit code.  A command that fails has printed whatever it printed before.
-/

namespace FolderSync.CommandLine

/-- What a command line leads to: what is printed, what is complained about, and the exit code. -/
structure Outcome where
  output : String := ""
  complaint : String := ""
  code : Nat := 0
deriving DecidableEq, Repr

/-- Why a command fails. -/
inductive Failure where
  | resolution (fault : ResolutionFault)
  | sync (e : SyncError)
  /-- A synchronization finished with this number of errors. -/
  | unfinished (errors : Nat)
deriving DecidableEq

/-- The words for a failure. -/
def Failure.message : Failure → String
  | .resolution fault => fault.message
  | .sync e => e.message
  | .unfinished errors => "Sync finished with " ++ toString errors ++ " error(s)"

/-- The program's name and version. -/
def programVersion : String := "modsync 0.1.0"

/-- A line of output. -/
def line (text : String) : String := text ++ "\n"

section Output

variable (painting : Bool)

/-- The line that opens a command. -/
def heading (text : String) : String := line ((Style.bold .blue).paint painting "=>" ++ " " ++ text)

/-- The line for one name: a sign, the name and a remark. -/
def item (sign : String) (colour : Colour) (name : String) (remark : String) : String :=
  line ("   " ++ (Style.plain colour).paint painting sign ++ " " ++ name ++ " (" ++ remark ++ ")")

/-- The line for a name that the filter does not accept. -/
def skippedLine (name : String) : String :=
  item painting "~" .yellow (Style.dimmed.paint painting name) "outside filter"

/-- The line that says that there is nothing to do. -/
def upToDateLine (count : Nat) : String :=
  line ((Style.bold .green).paint painting "OK" ++ " All " ++ toString count
    ++ " mod(s) up to date.")

/-- The reminder that the game has to be restarted. -/
def restartHint (count : Nat) : String :=
  line "" ++ line ((Style.bold .cyan).paint painting "NOTE" ++ " " ++ toString count
    ++ " mod(s) changed. Restart the game to load them.")

/-- A plan for the reader. -/
def planText (p : Plan) : String :=
  let named := (Style.plain .cyan).paint painting
  let work :=
    if p.IsConverged then upToDateLine painting p.upToDate.size
    else
      line ((Style.bold .yellow).paint painting "PENDING" ++ " " ++ toString p.work
        ++ " mod(s) to download:")
      ++ String.join (p.toInstall.names.map fun name => item painting "+" .green (named name) "new")
      ++ String.join (p.toUpdate.names.map fun name =>
          item painting "*" .yellow (named name) "update")
  work ++ String.join (p.skipped.names.map (skippedLine painting))

/-- A report for the reader. -/
def reportText (r : Report) : String :=
  let named := (Style.plain .cyan).paint painting
  let done := String.join (r.installed.map fun o =>
    item painting "+" .green (named o.filename) (toString o.bytes ++ " bytes"))
  let left := String.join (r.skipped.map (skippedLine painting))
  let verdict :=
    if ¬ r.IsSuccess then
      line ((Style.bold .red).paint painting "ERROR" ++ " Sync finished with errors:")
      ++ String.join (r.errors.map fun e =>
          line ("   " ++ (Style.plain .red).paint painting "!" ++ " " ++ e.message))
      ++ (if r.applied = 0 then "" else restartHint painting r.applied)
    else if r.applied = 0 then upToDateLine painting r.upToDate
    else
      line ((Style.bold .green).paint painting "OK" ++ " Downloaded " ++ toString r.applied
        ++ " mod(s).")
      ++ restartHint painting r.applied
  done ++ left ++ verdict

/-- What is printed when no command is given. -/
def greeting : String :=
  line ((Style.bold .green).paint painting "modsync" ++ " Mods folder synchronizer") ++ line ""
    ++ line ("Run " ++ (Style.plain .cyan).paint painting "modsync --help"
      ++ " for available commands.")

end Output

/-- How the program is used. -/
def usage : String :=
  String.join <| List.map line [
    "Usage: modsync [options] [sync [--dry-run] | check [--json]]",
    "",
    "  -c, --config FILE      the configuration file",
    "      --base-url URL     the server, in place of the configured one",
    "      --target-dir DIR   the mods folder, in place of the configured one",
    "  -v, --verbose          say what is requested",
    "  -h, --help             show this text",
    "  -V, --version          show the version"]

/-- Prints what a synchronization would do. -/
def preview (painting : Bool) (net : Network) (c : Config) (s : Session) :
    Session × String × Option Failure :=
  match Engine.ofConfig c with
  | .error e => (s, "", some (.sync e))
  | .ok engine =>
    match engine.plan net s with
    | (s, .error e) => (s, "", some (.sync e))
    | (s, .ok p) => (s, planText painting p, none)

/-- The command that downloads what is missing or stale, or with `dryRun` says what it would do. -/
def sync (painting : Bool) (net : Network) (draw : Draw) (dryRun : Bool) (c : Config) (s : Session) :
    Session × String × Option Failure :=
  if dryRun then
    let opening := heading painting
      ("Dry run: checking " ++ c.targetDir.text ++ " against " ++ c.baseUrl)
    let (s, text, failure) := preview painting net c s
    (s, opening ++ text, failure)
  else
    let opening := heading painting
      ("Syncing mods from " ++ c.baseUrl ++ " into " ++ c.targetDir.text)
    match Engine.ofConfig c with
    | .error e => (s, opening, some (.sync e))
    | .ok engine =>
      let (s, report) := engine.run net draw s
      (s, opening ++ reportText painting report,
        if report.IsSuccess then none else some (.unfinished report.errors.length))

/-- The command that says what a synchronization would change. -/
def check (painting : Bool) (net : Network) (json : Bool) (c : Config) (s : Session) :
    Session × String × Option Failure :=
  match Engine.ofConfig c with
  | .error e => (s, "", some (.sync e))
  | .ok engine =>
    match engine.plan net s with
    | (s, .error e) => (s, "", some (.sync e))
    | (s, .ok p) =>
      if json then (s, line p.text, none)
      else (s, heading painting ("Checking " ++ c.targetDir.text) ++ planText painting p, none)

/-- Follows an invocation. -/
def follow (env : Environment) (net : Network) (draw : Draw) (i : Invocation) (s : Session) :
    Session × String × Option Failure :=
  match i.command with
  | none => (s, greeting (isPainting env), none)
  | some command =>
    match Config.resolve env.home env.configHome s.volume.disk i.overrides with
    | .error fault => (s, "", some (.resolution fault))
    | .ok c =>
      match command with
      | .sync dryRun => sync (isPainting env) net draw dryRun c s
      | .check json => check (isPainting env) net json c s

/-- The line about a failure. -/
def complaint (painting : Bool) (f : Failure) : String :=
  line ((Style.bold .red).paint painting "error" ++ ": " ++ f.message)

/-- Follows a command line. -/
def run (env : Environment) (net : Network) (draw : Draw) (arguments : List String) (s : Session) :
    Session × Outcome :=
  match readArguments env arguments with
  | .error .version => (s, { output := line programVersion })
  | .error .help => (s, { output := usage })
  | .error (.fault _) => (s, { complaint := usage, code := 2 })
  | .ok i =>
    match follow env net draw i s with
    | (s, output, none) => (s, { output })
    | (s, output, some f) => (s, { output, complaint := complaint (isPainting env) f, code := 1 })

end FolderSync.CommandLine
