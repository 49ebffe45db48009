import FolderSync.CommandLine.Run
import FolderSync.Network.Message
import Std.Async

/-!
# The program

`main` follows the command line.  It takes the part of the disk that matters into a `Disk`, follows
the command line there, and then makes the same changes.  What the network replies is not known
beforehand, so the command line is followed again, from the same start, as long as it asks for
something that has not been asked for yet.
-/

namespace FolderSync.Main

open Std.Async

/-! ### The disk -/

/-- The text of a location. -/
def textOf (loc : Location) : String := "/" ++ String.intercalate "/" (loc.map lossyText)

/-- Where a link leads that leads nowhere. -/
def nowhere : Bytes := [slashByte, 0]

/-- What stands at a location. -/
def entryAt? (loc : Location) : IO (Option Entry) := do
  let path := (← IO.currentDir) / textOf loc
  try
    match (← path.symlinkMetadata).type with
    | .dir => return some .directory
    | .symlink =>
      try return some (.link (utf8 (← IO.FS.realPath path).toString))
      catch _ => return some (.link nowhere)
    | .file =>
      try return some (.file { bytes := (← IO.FS.readBinFile path).data.toList })
      catch _ => return some (.file { bytes := [], fault := some .inputOutput })
    | .other => return some (.link nowhere)
  catch _ => return none

/-- The names in the directory at a location, if it can be listed. -/
def namesAt? (loc : Location) : IO (Option (List Name)) := do
  try
    let entries ← ((← IO.currentDir) / textOf loc).readDir
    return some (entries.toList.map fun entry => utf8 entry.fileName)
  catch _ => return none

/-- Takes in what lies on the way along steps, through links. -/
partial def takeIn (d : Disk) (loc : Location) : List Step → IO (Disk × Location)
  | [] => return (d, loc)
  | .stay :: rest => takeIn d loc rest
  | .up :: rest => takeIn d loc.dropLast rest
  | .into name :: rest => do
    let next := loc ++ [name]
    match ← entryAt? next with
    | none => return (d, next)
    | some .directory => takeIn (d.put next .directory) next rest
    | some (.link target) =>
      let t := Trail.ofBytes target
      takeIn (d.put next (.link target)) (if t.absolute then [] else loc) (t.steps ++ rest)
    | some e => return (d.put next e, next)

/-- Takes in what a path leads to; of a directory what lies directly in it, too. -/
def takePath (d : Disk) (p : Path) : IO Disk := do
  let t := p.trail
  let (d, loc) ← takeIn d (d.start t) t.steps
  if d.find? loc = some .directory then
    match ← namesAt? loc with
    | none => return { d with closed := (loc, .inputOutput) :: d.closed }
    | some names => names.foldlM (fun d name => return (← takeIn d loc [.into name]).1) d
  else return d

/-- The part of the disk that an invocation looks at. -/
def diskFor (env : Environment) (i : CommandLine.Invocation) : IO Disk := do
  let here := Trail.ofBytes (utf8 (← IO.currentDir).toString)
  let (d, loc) ← takeIn {} [] here.steps
  let d := { d with here := loc }
  let d ← match i.overrides.file.or (Config.defaultPath env.configHome) with
    | some p => takePath d p
    | none => pure d
  match Config.resolve env.home env.configHome d i.overrides with
  | .error _ => return d
  | .ok c => takePath d c.targetDir

/-- Makes a change. -/
def enact : Change → IO Unit
  | .makeDirectory loc => IO.FS.createDir (textOf loc)
  | .createFile loc => discard (IO.FS.Handle.mk (textOf loc) .writeNew)
  | .append loc bytes => do (← IO.FS.Handle.mk (textOf loc) .append).write ⟨bytes.toArray⟩
  | .rename source target => IO.FS.rename (textOf source) (textOf target)
  | .remove loc => IO.FS.removeFile (textOf loc)

/-! ### The network -/

/-- All bytes that arrive until the connection is closed. -/
partial def receive (socket : TCP.Socket.Client) (received : ByteArray) : Async ByteArray := do
  match ← socket.recv? 65536 with
  | some piece => receive socket (received ++ piece)
  | none => return received

/-- Asks one host for an address. -/
def ask (u : Url) (host : Std.Net.IPAddr) (port : UInt16) : Async (Option Reply) := do
  let socket ← TCP.Socket.Client.mk
  socket.connect <| match host with
    | .v4 addr => .v4 { addr, port }
    | .v6 addr => .v6 { addr, port }
  socket.send (Message.request u).toUTF8
  return Message.reply? (← receive socket .empty).data.toList

/-- Asks for an address, for a limited time. -/
def exchange (request : String) (seconds : Nat) : IO (Option Reply) := do
  let .ok u := Url.parse request | return none
  let some authority := u.authority | return none
  let name := match authority.host with
    | .ipv6 pieces => String.ofList (ipv6Chars pieces)
    | host => String.ofList host.chars
  let port := (authority.port.or (defaultPort? u.scheme)).getD 80
  let talk : Async (Option Reply) := do
    match (← DNS.getAddrInfo name "")[0]? with
    | some host => ask u host port.toUInt16
    | none => return none
  let limit : Async (Option Reply) := do
    sleep (.ofNat (1000 * seconds))
    return none
  try (Async.race talk limit).block catch _ => return none

/-! ### The command line -/

/-- The home directory of a user in a list of accounts, a line each with colons between the
fields. -/
def homeOf? (accounts user : String) : Option Path :=
  (accounts.splitOn "\n").findSome? fun line =>
    match line.splitOn ":" with
    | _ :: _ :: id :: _ :: _ :: home :: _ => if id = user then some (.ofText home) else none
    | _ => none

/-- The home directory of the account that the program runs under, if it has one. -/
def accountHome : IO (Option Path) := do
  try
    let status ← IO.FS.readFile "/proc/self/status"
    let user := (status.splitOn "\n").findSome? fun line =>
      match line.splitOn "\t" with
      | "Uid:" :: user :: _ => some user
      | _ => none
    return user.bind (homeOf? (← IO.FS.readFile "/etc/passwd"))
  catch _ => return none

/-- The variables that matter. -/
def environment : IO Environment := do
  let names := ["HOME", "XDG_CONFIG_HOME", "MODSYNC_CONFIG", "MODSYNC_BASE_URL", "CLICOLOR_FORCE",
    "NO_COLOR", "CLICOLOR"]
  let values ← names.filterMapM fun name => return (← IO.getEnv name).map (name, ·)
  return { values, accountHome := ← accountHome, terminal := ← (← IO.getStdout).isTty }

/-- Follows the command line with the replies received so far, and asks for those that are missing,
until none is. -/
partial def settle (run : Network → Session × CommandLine.Outcome)
    (exchange : (isFirst : Bool) → String → IO (Option Reply))
    (received : List (String × Option Reply)) : IO (Session × CommandLine.Outcome) := do
  let (session, outcome) := run (.ofReplies received)
  let missing := session.asked.filter fun request => (received.lookup request).isNone
  if missing.isEmpty then return (session, outcome)
  else
    let replies ← missing.eraseDups.mapM fun request =>
      return (request, ← exchange received.isEmpty request)
    settle run exchange (received ++ replies)

/-- Follows an invocation to its end. -/
def follow (env : Environment) (arguments : List String) (i : CommandLine.Invocation) :
    IO CommandLine.Outcome := do
  let disk ← if i.command.isSome then diskFor env i else pure {}
  let seed ← IO.rand 0 (Nat.pow 36 6 - 1)
  let start : Session := { volume := { disk } }
  let (first, later) :=
    match Config.resolve env.home env.configHome disk i.overrides with
    | .ok c => (c.manifestTimeout, c.downloadTimeout)
    | .error _ => (0, 0)
  let ask (isFirst : Bool) (request : String) : IO (Option Reply) := do
    if i.verbose then IO.eprintln ("GET " ++ request)
    exchange request (if isFirst then first else later)
  let run (net : Network) : Session × CommandLine.Outcome :=
    CommandLine.run env net (fun _ => .ofNat seed) arguments start
  let (session, outcome) ← settle run ask []
  session.volume.journal.forM enact
  return outcome

end FolderSync.Main

open FolderSync in
def main (arguments : List String) : IO UInt32 := do
  let env ← Main.environment
  let outcome ←
    match CommandLine.readArguments env arguments with
    | .ok i => Main.follow env arguments i
    | .error _ =>
      pure (CommandLine.run env (.ofReplies []) (fun _ => .ofNat 0) arguments {}).2
  IO.print outcome.output
  IO.eprint outcome.complaint
  return outcome.code.toUInt32
