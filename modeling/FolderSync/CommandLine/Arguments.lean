import FolderSync.Resolution

/-!
# Arguments

A command line has two levels: the arguments of the program and, behind the name of a command, the
arguments of that command.  Each level takes flags, which stand alone, and settings, which take a
value; some are known on both levels.  No flag and no setting is given twice on a level.

`Level.read` reads the arguments of one level, `readArguments` a whole command line: what is
asked for on the level of the command comes before what is asked for on that of the program, and
that before the environment.
-/

namespace FolderSync

/-- The values of the shell's variables, the home directory of the user's account if it has one, and
whether the output goes to a terminal. -/
structure Environment where
  values : List (String × String) := []
  accountHome : Option Path := none
  terminal : Bool := false
deriving DecidableEq, Repr

namespace Environment

/-- The value of a variable. -/
def get? (e : Environment) (name : String) : Option String := e.values.lookup name

/-- The user's home directory, if there is one. -/
def home? (e : Environment) : Option Path :=
  match e.get? "HOME" with
  | some text => if text = "" then e.accountHome else some (.ofText text)
  | none => e.accountHome

/-- The directory that defaults start from: without a home directory, the empty path. -/
def home (e : Environment) : Path := e.home?.getD ⟨[]⟩

/-- The directory of the user's configuration files, if there is one. -/
def configHome (e : Environment) : Option Path :=
  match e.get? "XDG_CONFIG_HOME" with
  | some text =>
    if (Path.ofText text).isAbsolute then some (.ofText text)
    else e.home?.map fun home => home.join ".config"
  | none => e.home?.map fun home => home.join ".config"

end Environment

namespace CommandLine

/-- What stands alone on the command line. -/
inductive Flag where
  | verbose
  | help
  | version
  | dryRun
  | json
deriving DecidableEq, Repr

/-- What takes a value. -/
inductive Setting where
  | config
  | baseUrl
  | targetDir
deriving DecidableEq, Repr

/-- Whose arguments are read. -/
inductive Scope where
  | program
  | sync
  | check
deriving DecidableEq, Repr

/-- What a name on the command line stands for. -/
inductive Switch where
  | flag (f : Flag)
  | setting (s : Setting)
deriving DecidableEq, Repr

/-- Why a command line cannot be followed. -/
inductive UsageFault where
  | unknown (argument : String)
  | missingValue (s : Setting)
  | unwantedValue (f : Flag)
  | emptyValue (s : Setting)
  | repeatedFlag (f : Flag)
  | repeatedSetting (s : Setting)
deriving DecidableEq, Repr

/-- Why reading ends early: a fault, or a flag that is answered at once. -/
inductive Halt where
  | fault (reason : UsageFault)
  | help
  | version
deriving DecidableEq, Repr

namespace Scope

/-- The long names of a scope. -/
def long? (scope : Scope) (name : String) : Option Switch :=
  match scope, name with
  | _, "verbose" => some (.flag .verbose)
  | _, "help" => some (.flag .help)
  | _, "config" => some (.setting .config)
  | _, "base-url" => some (.setting .baseUrl)
  | _, "target-dir" => some (.setting .targetDir)
  | .program, "version" => some (.flag .version)
  | .sync, "dry-run" => some (.flag .dryRun)
  | .check, "json" => some (.flag .json)
  | _, _ => none

/-- The short names of a scope. -/
def short? (scope : Scope) (c : Char) : Option Switch :=
  match scope, c with
  | _, 'v' => some (.flag .verbose)
  | _, 'h' => some (.flag .help)
  | _, 'c' => some (.setting .config)
  | .program, 'V' => some (.flag .version)
  | _, _ => none

/-- The commands of the program. -/
def command? (scope : Scope) (name : String) : Option Scope :=
  match scope, name with
  | .program, "sync" => some .sync
  | .program, "check" => some .check
  | _, _ => none

end Scope

/-- What one level asks for. -/
structure Level where
  flags : List Flag := []
  settings : List (Setting × String) := []
deriving DecidableEq, Repr

namespace Level

/-- The level with one more flag. -/
def raise (l : Level) (f : Flag) : Except Halt Level :=
  if f = .help then .error .help
  else if f = .version then .error .version
  else if f ∈ l.flags then .error (.fault (.repeatedFlag f))
  else .ok { l with flags := f :: l.flags }

/-- The value of a setting, which may be empty only for an address. -/
def checkValue (s : Setting) (value : String) : Except Halt String :=
  if value = "" ∧ s ≠ .baseUrl then .error (.fault (.emptyValue s)) else .ok value

/-- The level with one more setting. -/
def assign (l : Level) (s : Setting) (value : String) : Except Halt Level :=
  match l.settings.lookup s with
  | some _ => .error (.fault (.repeatedSetting s))
  | none => (checkValue s value).map fun value => { l with settings := (s, value) :: l.settings }

/-- A text without the equals sign at its start. -/
def withoutEquals : List Char → List Char
  | '=' :: rest => rest
  | cs => cs

/-- Reads short names that stand together.  What follows the name of a setting is its value; if
nothing does, the value is still to come. -/
def readShort (scope : Scope) (l : Level) : List Char → Except Halt (Level × Option Setting)
  | [] => .ok (l, none)
  | c :: rest =>
    match scope.short? c with
    | none => .error (.fault (.unknown (String.ofList ['-', c])))
    | some (.flag f) =>
      match l.raise f with
      | .error halt => .error halt
      | .ok l => readShort scope l rest
    | some (.setting s) =>
      if rest = [] then .ok (l, some s)
      else (l.assign s (String.ofList (withoutEquals rest))).map (·, none)

/-- Reads a long name, possibly with a value behind an equals sign. -/
def readLong (scope : Scope) (l : Level) (cs : List Char) : Except Halt (Level × Option Setting) :=
  let name := String.ofList (cs.takeWhile (· ≠ '='))
  match scope.long? name, cs.dropWhile (· ≠ '=') with
  | none, _ => .error (.fault (.unknown ("--" ++ name)))
  | some (.flag f), [] => (l.raise f).map (·, none)
  | some (.flag f), _ :: _ => .error (.fault (.unwantedValue f))
  | some (.setting s), [] => .ok (l, some s)
  | some (.setting s), _ :: value => (l.assign s (String.ofList value)).map (·, none)

/-- Could the argument be a name, and so no value? -/
def isNamed : List Char → Bool
  | '-' :: _ :: _ => true
  | _ => false

/-- What comes of asking for help on the commands named, each inside the one before; no command
has commands of its own. -/
def helpOn : List String → Halt
  | [] => .help
  | [name] =>
    if name = "help" ∨ (Scope.program.command? name).isSome then .help else .fault (.unknown name)
  | name :: more :: _ =>
    if name = "help" ∨ (Scope.program.command? name).isSome then .fault (.unknown more)
    else .fault (.unknown name)

/-- Reads the arguments of one level.  `awaiting` is a setting whose value is still to come.  Reading
ends at the name of a command, and gives the arguments behind it. -/
def read (scope : Scope) (l : Level) (awaiting : Option Setting) :
    List String → Except Halt (Level × Option (Scope × List String))
  | [] =>
    match awaiting with
    | some s => .error (.fault (.missingValue s))
    | none => .ok (l, none)
  | argument :: rest =>
    match awaiting, argument.toList with
    | some s, cs =>
      if isNamed cs then .error (.fault (.missingValue s))
      else match l.assign s argument with
        | .error halt => .error halt
        | .ok l => read scope l none rest
    | none, ['-', '-'] =>
      match rest with
      | [] => .ok (l, none)
      | more :: _ => .error (.fault (.unknown more))
    | none, '-' :: '-' :: cs =>
      match l.readLong scope cs with
      | .error halt => .error halt
      | .ok (l, awaiting) => read scope l awaiting rest
    | none, '-' :: c :: cs =>
      match l.readShort scope (c :: cs) with
      | .error halt => .error halt
      | .ok (l, awaiting) => read scope l awaiting rest
    | none, _ =>
      match scope.command? argument with
      | some command => .ok (l, some (command, rest))
      | none =>
        if scope = .program ∧ argument = "help" then .error (helpOn rest)
        else .error (.fault (.unknown argument))

/-- The variable that stands for a setting. -/
def shellName? : Setting → Option String
  | .config => some "MODSYNC_CONFIG"
  | .baseUrl => some "MODSYNC_BASE_URL"
  | .targetDir => none

/-- The value of a setting that is not on the level but in the environment. -/
def inherited (l : Level) (env : Environment) (s : Setting) : Except Halt (Option String) :=
  match l.settings.lookup s, (shellName? s).bind env.get? with
  | none, some value => (checkValue s value).map some
  | _, _ => .ok none

end Level

/-- What the program is asked to do. -/
inductive Command where
  | sync (dryRun : Bool)
  | check (json : Bool)
deriving DecidableEq, Repr

/-- A command line that can be followed. -/
structure Invocation where
  command : Option Command := none
  overrides : Overrides := {}
  verbose : Bool := false
deriving DecidableEq, Repr

/-- The value of a setting: that of the innermost level that has one, or that of the environment.
The environment is looked at on each level that has none, and must be well-formed there. -/
def settle (env : Environment) (levels : List Level) (s : Setting) : Except Halt (Option String) := do
  let inherited ← levels.mapM (·.inherited env s)
  return (levels.findSome? (·.settings.lookup s)).or (inherited.findSome? id)

/-- The command of a scope, as its level asks for it. -/
def Scope.command (scope : Scope) (l : Level) : Option Command :=
  match scope with
  | .program => none
  | .sync => some (.sync (l.flags.contains .dryRun))
  | .check => some (.check (l.flags.contains .json))

/-- What is asked for by the levels that were read, innermost first. -/
def invocation (env : Environment) (command : Option Command) (levels : List Level) :
    Except Halt Invocation := do
  let file ← settle env levels .config
  let baseUrl ← settle env levels .baseUrl
  let targetDir ← settle env levels .targetDir
  return {
    command
    overrides := { file := file.map .ofText, baseUrl, targetDir := targetDir.map .ofText }
    verbose := levels.any (·.flags.contains .verbose) }

/-- Reads a command line. -/
def readArguments (env : Environment) (arguments : List String) : Except Halt Invocation := do
  let (outer, next) ← Level.read .program {} none arguments
  match next with
  | none => invocation env none [outer]
  | some (scope, rest) =>
    let (inner, _) ← Level.read scope {} none rest
    invocation env (scope.command inner) [inner, outer]

end CommandLine

end FolderSync
