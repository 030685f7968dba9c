import SegmentOffload.CommandLine.Parse
import SegmentOffload.ConfigLoading
import SegmentOffload.Holdings
import SegmentOffload.Load
import SegmentOffload.Offload

/-!
Carrying out a command line.

The setup is the file's and the environment's with the options on top.  A command prints one line
for each thing that it did or found, or one JSON value; what it printed before a failure stays
printed.
-/

namespace SegmentOffload

open CommandLine (Invocation Command RelationChoice GarbageChoice)
open Wire (ObjectMeta)

namespace Commands

variable {π : Type} [Peer π]

/-- What a command printed, how it ended, and what it left behind. -/
structure Run (π : Type) where
  output : String
  outcome : Except Failure Unit
  host : Host π

namespace Run

def printed (output : String) (host : Host π) : Run π := ⟨output, .ok (), host⟩

def failed (failure : Failure) (host : Host π) : Run π := ⟨"", .error failure, host⟩

def silent (outcome : Except Failure Unit) (host : Host π) : Run π := ⟨"", outcome, host⟩

end Run

/-! ### The setup -/

def withOptions (environment : Environment) (invocation : Invocation) (config : ClientConfig) :
    ClientConfig :=
  { config with
    socketPath := (invocation.socket.map environment.expandTilde).getD config.socketPath
    tableSpace := invocation.tableSpace.getD config.tableSpace
    retryLimit := invocation.retryLimit.getD config.retryLimit }

def configFor (environment : Environment) (invocation : Invocation) (disk : Disk) :
    Except ClientError ClientConfig × List LogEntry :=
  match ClientConfig.load disk environment invocation.config with
  | (.error error, journal) => (.error error, journal)
  | (.ok loaded, journal) =>
    let config := withOptions environment invocation loaded
    match config.validate with
    | .error error => (.error error, journal)
    | .ok () => (.ok config, journal)

def catalogPath (environment : Environment) (invocation : Invocation) :
    Except ClientError String :=
  match invocation.catalog with
  | some path => .ok (environment.expandTilde path)
  | none => Catalog.defaultPath environment

/-- The catalog, which may be missing and is empty then. -/
def openCatalog (environment : Environment) (invocation : Invocation) (disk : Disk) :
    Except Failure Catalog :=
  match catalogPath environment invocation with
  | .error error => .error (.ofClient error)
  | .ok path =>
    match Catalog.openFile disk path with
    | .ok catalog => .ok catalog
    | .error error => .error ((Failure.ofClient error).remark ("Failed to open catalog " ++ path))

/-! ### Segments -/

/-- The digest that was given, or that of the name that was given. -/
def chosenHash (hash relation : Option String) (schema : String) : Except Failure String :=
  match hash, relation with
  | some hash, _ => .ok hash
  | none, some relation => .ok (relationHash schema relation)
  | none, none => .error (.stated "either --relation-hash or --relation is required")

def chosenSegment (config : ClientConfig) (choice : RelationChoice) (blockNumber : UInt32) :
    Except Failure Segment := do
  let relationHash ← chosenHash choice.relationHash choice.relation choice.schema
  return {
    segmentIndex := choice.segmentIndex.getD config.segmentIndex
    tableSpaceOid := choice.tableSpaceOid
    databaseOid := choice.databaseOid
    relationHash
    relfilenode := choice.relfilenode
    blockNumber }

/-! ### Printing -/

def entryLines (entries : List ObjectMeta) : String :=
  String.join (entries.map fun entry => s!"{entry.path}\t{entry.size}\n")

def entriesToJson (entries : List ObjectMeta) : JsonValue :=
  .list (entries.map ObjectMeta.toJson)

def statToJson (stat : Holdings.Stat) : JsonValue :=
  .ofFields [("external_bytes", .ofWord stat.externalBytes), ("chunks", entriesToJson stat.chunks)]

/-! ### Commands -/

def runOffload (config : ClientConfig) (environment : Environment) (invocation : Invocation)
    (choice : RelationChoice) (block : UInt32) (file : String) (logPosition : UInt64)
    (host : Host π) : Run π :=
  match chosenSegment config choice block with
  | .error failure => .failed failure host
  | .ok segment =>
    match openCatalog environment invocation host.disk with
    | .error failure => .failed failure host
    | .ok catalog =>
      match Offload.offloadAndRecord config catalog segment logPosition file host with
      | (.error failure, _, host) => .failed failure host
      | (.ok none, _, host) => .printed "up to date\n" host
      | (.ok (some chunk), _, host) =>
        .printed s!"{chunk.remotePath}\t{chunk.byteLength}\n" host

def loadJobs (config : ClientConfig) (choice : RelationChoice) (blocks : List UInt32)
    (directory : String) : Except Failure (List Load.Job) :=
  blocks.mapM fun block => do
    let segment ← chosenSegment config choice block
    return ⟨segment, Path.join directory (segmentFileName choice.relfilenode block)⟩

def loadLine (job : Load.Job) : Except Failure LoadOutcome → String
  | .ok .alreadyPresent => job.path ++ "\tpresent\n"
  | .ok (.loaded bytes _ _) => s!"{job.path}\t{bytes}\n"
  | .error _ => ""

def loadEntry? (job : Load.Job) : Except Failure LoadOutcome → Option LogEntry
  | .ok _ => none
  | .error failure =>
    some (.error ("load failed: " ++ failure.account) [("identity", job.segment.label)])

def runLoad (config : ClientConfig) (environment : Environment) (invocation : Invocation)
    (choice : RelationChoice) (blocks : List UInt32) (directory : String) (host : Host π) : Run π :=
  match openCatalog environment invocation host.disk with
  | .error failure => .failed failure host
  | .ok catalog =>
    match loadJobs config choice blocks directory with
    | .error failure => .failed failure host
    | .ok jobs =>
      match Load.loadAll config catalog jobs host with
      | (.error failure, host) => .failed failure host
      | (.ok outcomes, host) =>
        let results := jobs.zip outcomes
        let output := String.join (results.map fun result => loadLine result.1 result.2)
        let entries := results.filterMap fun result => loadEntry? result.1 result.2
        let host := { host with disk := Load.letGo outcomes host.disk }.reportAll entries
        if entries.isEmpty then .printed output host
        else
          ⟨output,
            .error (.stated s!"{entries.length} of {jobs.length} segments failed to load"), host⟩

/-- Drop a removed object from the catalog, if there is a catalog. -/
def forgetChunk (environment : Environment) (invocation : Invocation) (remotePath : String)
    (disk : Disk) : Except Failure Unit × Disk :=
  match catalogPath environment invocation with
  | .error error => (.error (.ofClient error), disk)
  | .ok path =>
    if disk.isPresent path then
      match Catalog.openFile disk path with
      | .error error => (.error (.ofClient error), disk)
      | .ok catalog =>
        match catalog.removeChunk remotePath disk with
        | (.error error, _, disk) => (.error (.ofClient error), disk)
        | (.ok _, _, disk) => (.ok (), disk)
    else (.ok (), disk)

def runDelete (config : ClientConfig) (environment : Environment) (invocation : Invocation)
    (remotePath : String) (host : Host π) : Run π :=
  match Holdings.deleteChunk config remotePath host.disk host.client with
  | (.error failure, client) => .failed failure { host with client }
  | (.ok (), client) =>
    let (outcome, disk) := forgetChunk environment invocation remotePath host.disk
    .silent outcome ⟨client, disk⟩

def runVacuum (config : ClientConfig) (choice : GarbageChoice) (host : Host π) : Run π :=
  let segmentIndex := choice.segmentIndex.getD config.segmentIndex
  let isBound := choice.relationHash.isSome || choice.relation.isSome
  match choice.databaseOid.filter fun _ => isBound with
  | none =>
    let (outcome, client) :=
      Holdings.vacuum config segmentIndex choice.confirm host.disk host.client
    .silent outcome { host with client }
  | some databaseOid =>
    match chosenHash choice.relationHash choice.relation choice.schema with
    | .error failure => .failed failure host
    | .ok relationHash =>
      let segment : Segment :=
        { segmentIndex, tableSpaceOid := choice.tableSpaceOid, databaseOid, relationHash
          relfilenode := 0, blockNumber := 0 }
      let (outcome, client) :=
        Holdings.vacuumRelation config segment choice.confirm host.disk host.client
      .silent outcome { host with client }

def runList (config : ClientConfig) (choice : RelationChoice) (json : Bool) (host : Host π) :
    Run π :=
  match chosenSegment config choice 0 with
  | .error failure => .failed failure host
  | .ok segment =>
    match Holdings.listChunks config segment host.disk host.client with
    | (.error failure, client) => .failed failure { host with client }
    | (.ok entries, client) =>
      .printed (if json then (entriesToJson entries).pretty ++ "\n" else entryLines entries)
        { host with client }

def runStat (config : ClientConfig) (choice : RelationChoice) (json : Bool) (host : Host π) :
    Run π :=
  match chosenSegment config choice 0 with
  | .error failure => .failed failure host
  | .ok segment =>
    match Holdings.stat config segment host.disk host.client with
    | (.error failure, client) => .failed failure { host with client }
    | (.ok stat, client) =>
      .printed
        (if json then (statToJson stat).pretty ++ "\n"
          else s!"total\t{stat.externalBytes}\n" ++ entryLines stat.chunks)
        { host with client }

/-- The paths of everything that a command line may look at or change on the disk. -/
def paths (environment : Environment) (invocation : Invocation) : List String :=
  let own : List String :=
    match invocation.command with
    | .offload _ _ file _ => [file]
    | .load choice blocks directory =>
      blocks.map fun block => Path.join directory (segmentFileName choice.relfilenode block)
    | _ => []
  ClientConfig.possiblePaths environment invocation.config ++
    (catalogPath environment invocation).toOption.toList ++ own

def run (environment : Environment) (invocation : Invocation) (host : Host π) : Run π :=
  let (outcome, journal) := configFor environment invocation host.disk
  let host := host.reportAll journal
  match outcome with
  | .error error => .failed (.ofClient error) host
  | .ok config =>
    match invocation.command with
    | .offload choice block file logPosition =>
      runOffload config environment invocation choice block file logPosition host
    | .load choice blocks directory =>
      runLoad config environment invocation choice blocks directory host
    | .delete remotePath => runDelete config environment invocation remotePath host
    | .vacuum choice => runVacuum config choice host
    | .list choice json => runList config choice json host
    | .stat choice json => runStat config choice json host

end Commands

end SegmentOffload
