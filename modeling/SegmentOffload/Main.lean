import SegmentOffload.Commands
import SegmentOffload.CommandLine.Help
import SegmentOffload.LogFilter
import SegmentOffload.Peer.Unreachable

/-!
The program: it looks at the files that a command line is about, carries the command line out on
that picture of them, and writes back what has changed.

What a command line comes to is decided by `Commands.run`; here are only the calls that read the
environment and the disk, write files and print.  The program has no sockets, so a command that
needs the proxy ends with the report that it cannot be reached.
-/

namespace SegmentOffload.Program

def knownVariables : List String :=
  ["HOME", "XDG_CONFIG_HOME", "XDG_DATA_HOME", "YPROXY_CLIENT_CONFIG", "YPROXY_SOCKET",
    "YPROXY_TABLE_SPACE", "YPROXY_RETRY_LIMIT", "RUST_LOG"]

/-- The number of the user, from the report of the system on a program. -/
def userNumber? (report : String) : Option String :=
  (report.splitOn "\n").findSome? fun line =>
    match line.splitOn "\t" with
    | "Uid:" :: number :: _ => some number
    | _ => none

/-- The home directory of a user in the system's table of accounts. -/
def homeInTable? (table user : String) : Option String :=
  (table.splitOn "\n").findSome? fun line =>
    match line.splitOn ":" with
    | [_, _, number, _, _, home, _] => if number = user then some home else none
    | _ => none

def readAccountHome : IO (Option String) := do
  match ← (IO.FS.readFile "/proc/self/status").toBaseIO, ← (IO.FS.readFile "/etc/passwd").toBaseIO with
  | .ok report, .ok table => return (userNumber? report).bind (homeInTable? table)
  | _, _ => return none

def readEnvironment : IO Environment := do
  let values ← knownVariables.mapM fun name => do
    let value ← IO.getEnv name
    return value.map fun value => (name, value)
  return { values := values.filterMap id, accountHome := ← readAccountHome }

/-- What is at a location.  A directory can be opened but not read, a socket not even opened. -/
def look (location : Location) : IO (Option Node) := do
  match ← (IO.FS.readBinFile location.path).toBaseIO with
  | .ok content => return some (.file content.toList)
  | .error (.inappropriateType none ..) => return some .directory
  | .error (.inappropriateType ..) => return none
  | .error (.noFileOrDirectory ..) => return none
  | .error (.noSuchThing ..) => return some .socket
  | .error error => throw error

def addPaths (paths : List String) (picture : Disk) : IO Disk := do
  let mut disk := picture
  for path in paths do
    for location in (disk.start path).passed (Path.components path) do
      if (disk.node? location).isNone then
        if let some node ← look location then
          disk := disk.put location node
  return disk

def pictureFor (environment : Environment) (invocation : CommandLine.Invocation) : IO Disk := do
  let working : Location := Path.components (← IO.currentDir).toString
  let disk ← addPaths (Commands.paths environment invocation) { Disk.empty with working }
  match (Commands.configFor environment invocation disk).1 with
  | .ok config => addPaths [config.socketPath] disk
  | .error _ => return disk

/-- Make a directory, or write a file beside its place and then move it there. -/
def writeNode (location : Location) : Node → IO Unit
  | .directory => IO.FS.createDirAll location.path
  | .file content => do
    let beside : Location := location.dropLast ++ [".tmp-" ++ location.getLast?.getD ""]
    IO.FS.writeBinFile beside.path ⟨content.toArray⟩
    IO.FS.rename beside.path location.path
  | .socket => return

/-- Carry out a command line that has been read, and show the reports that a filter lets through. -/
def carryOut (environment : Environment) (invocation : CommandLine.Invocation)
    (filter : LogFilter) : IO UInt32 := do
  let disk ← pictureFor environment invocation
  let host : Host Unreachable := ⟨⟨⟨⟨⟩, []⟩, []⟩, disk⟩
  let run := Commands.run environment invocation host
  for (location, node) in run.host.disk.changesFrom disk do
    writeNode location node
  for entry in run.host.client.journal do
    if filter.shows entry.level then
      IO.eprintln entry.line
  IO.print run.output
  match run.outcome with
  | .ok () => return 0
  | .error failure =>
    IO.eprint failure.report
    return failure.exitCode.toUInt32

def stoppedCode : UInt32 := 101

/-- Carry out a command line under the filter that the environment or its flags ask for. -/
def start (environment : Environment) (invocation : CommandLine.Invocation) : IO UInt32 := do
  match LogFilter.ofEnvironment environment invocation.verbose invocation.quiet with
  | .ok filter => carryOut environment invocation filter
  | .error split =>
    IO.eprintln split.message
    return stoppedCode

end SegmentOffload.Program

/-- Read the command line and carry it out, or say why not. -/
def main (arguments : List String) : IO UInt32 := do
  let environment ← SegmentOffload.Program.readEnvironment
  match SegmentOffload.CommandLine.parse environment arguments with
  | .ok invocation => SegmentOffload.Program.start environment invocation
  | .error error =>
    if error.exitCode = 0 then IO.print error.response else IO.eprint error.response
    return error.exitCode.toUInt32
