import FolderSync.Disk.Path
import FolderSync.Filter
import FolderSync.Text.Blank
import FolderSync.Text.Quoted
import FolderSync.Toml.Reader
import FolderSync.Url.Reader

/-!
# Configuration

A `Config` says which server to follow, into which directory, which files are managed, and how.
`Config.ofText` reads one from TOML: keys that are not known do not count, and a key that is missing
leaves its default.  `Config.fault?` finds the first reason why a configuration cannot be used.
-/

namespace FolderSync

/-- What a synchronization follows. -/
structure Config where
  baseUrl : String := ""
  targetDir : Path
  filter : Filter := {}
  manifestTimeout : Nat := 5
  downloadTimeout : Nat := 30
  verifyIntegrity : Bool := true
deriving DecidableEq, Repr

/-- Why a configuration cannot be used. -/
inductive ConfigFault where
  | noBaseUrl
  | badBaseUrl (url : String) (fault : UrlFault)
  | badScheme (scheme : String)
  | zeroTimeout
deriving DecidableEq, Repr

/-- The words for the reason. -/
def ConfigFault.message : ConfigFault → String
  | .noBaseUrl => "base_url is not set"
  | .badBaseUrl url fault =>
    "base_url " ++ Text.quoted url ++ " is invalid: " ++ fault.message
  | .badScheme scheme => "base_url must use http or https, got " ++ Text.quoted scheme
  | .zeroTimeout => "timeouts must be at least one second"

/-- Why a text holds no configuration. -/
inductive TomlFault where
  | malformed
  | shape (fault : ShapeFault)
deriving DecidableEq, Repr

/-- The words for the reason. -/
def TomlFault.message : TomlFault → String
  | .malformed => "TOML parse error"
  | .shape fault => "TOML parse error: " ++ fault.message .positional

namespace Config

/-- The directory where files go unless one is given. -/
def defaultTarget (home : Path) : Path := (home.join ".minecraft").join "mods"

/-- The configuration in which nothing is given. -/
def default (home : Path) : Config := { targetDir := defaultTarget home }

/-- Where the configuration is kept unless a place is given, if there is a directory for such files. -/
def defaultPath (configHome : Option Path) : Option Path :=
  configHome.map fun directory => (directory.join "modsync").join "config.toml"

/-! ### Reading -/

/-- A value that must be a text. -/
def asText (expected : Expected) : Toml → Except ShapeFault String
  | .string s => .ok s
  | v => .error (.wrongType v.found expected)

/-- A value that must be a natural number. -/
def asNatural : Toml → Except ShapeFault Nat
  | .integer n => if 0 ≤ n then .ok n.toNat else .error (.outOfRange n .natural)
  | v => .error (.wrongType v.found .natural)

/-- A value that must be a truth value. -/
def asBoolean : Toml → Except ShapeFault Bool
  | .boolean b => .ok b
  | v => .error (.wrongType v.found .boolean)

/-- The filter with one more key. -/
def addFilterKey (f : Filter) (entry : String × Toml) : Except ShapeFault Filter :=
  if entry.1 = "prefix" then
    (asText .text entry.2).map fun opening => { f with opening }
  else if entry.1 = "suffix" then
    (asText .text entry.2).map fun ending => { f with ending }
  else .ok f

/-- A value that must be a filter: a table, or a list of the opening and the ending, of which more
items do not count.  A date or a time is a table without known keys. -/
def asFilter : Toml → Except ShapeFault Filter
  | .table entries => entries.foldlM addFilterKey {}
  | .moment => .ok {}
  | .array items => do
    let f : Filter := {}
    match items with
    | [] => return f
    | [a] => return { f with opening := ← asText .text a }
    | a :: b :: _ =>
      let opening ← asText .text a
      let ending ← asText .text b
      return { opening, ending }
  | v => .error (.wrongType v.found .filter)

/-- The configuration with one more key. -/
def addKey (c : Config) (entry : String × Toml) : Except ShapeFault Config :=
  match entry.1 with
  | "base_url" => (asText .text entry.2).map fun baseUrl => { c with baseUrl }
  | "target_dir" => (asText .path entry.2).map fun text => { c with targetDir := .ofText text }
  | "filter" => (asFilter entry.2).map fun filter => { c with filter }
  | "manifest_timeout_secs" =>
    (asNatural entry.2).map fun manifestTimeout => { c with manifestTimeout }
  | "download_timeout_secs" =>
    (asNatural entry.2).map fun downloadTimeout => { c with downloadTimeout }
  | "verify_integrity" =>
    (asBoolean entry.2).map fun verifyIntegrity => { c with verifyIntegrity }
  | _ => .ok c

/-- The configuration that the entries of a table give, one after the other. -/
def ofEntries (home : Path) (entries : List (String × Toml)) : Except ShapeFault Config :=
  entries.foldlM addKey (default home)

/-- Reads a configuration. -/
def ofText (home : Path) (text : String) : Except TomlFault Config :=
  match Toml.read? text with
  | some (.table entries) =>
    match ofEntries home entries with
    | .ok c => .ok c
    | .error fault => .error (.shape fault)
  | _ => .error .malformed

/-! ### Use -/

/-- The first reason why the configuration cannot be used. -/
def fault? (c : Config) : Option ConfigFault :=
  if Text.IsBlank c.baseUrl then some .noBaseUrl
  else match Url.parse c.baseUrl with
    | .error fault => some (.badBaseUrl c.baseUrl fault)
    | .ok url =>
      if ¬ url.IsHttp then some (.badScheme url.scheme)
      else if c.manifestTimeout = 0 ∨ c.downloadTimeout = 0 then some .zeroTimeout
      else none

/-- Can the configuration be used? -/
def Usable (c : Config) : Prop := c.fault? = none

instance (c : Config) : Decidable c.Usable := inferInstanceAs (Decidable (c.fault? = none))

end Config

end FolderSync
