import SegmentOffload.Catalog
import SegmentOffload.DownloadSource
import SegmentOffload.Host

/-!
Rebuilding a local segment file from its chunks.

A file that exists is left alone.  Otherwise the bytes go into a temporary file beside it, which
takes the final name only after all bytes are there and on the medium; so no failure leaves a
partial file.  When it is the final name that cannot be taken, the failure keeps the temporary file.
-/

namespace SegmentOffload

inductive LoadOutcome where
  /-- There was a file already. -/
  | alreadyPresent
  | loaded (bytes chunks duplicates : Nat)
deriving DecidableEq, Repr

structure OpenFile where
  disk : Disk
  location : Location

instance : Sink OpenFile where
  write data file :=
    let (outcome, disk) := file.disk.append file.location data
    (outcome, { file with disk })

namespace Load

variable {π γ : Type} [Peer π] [ChunkCatalog γ]

/-! ### The plan -/

def gapEntry (segment : Segment) (chunk : Chunk) (expected : UInt64) : LogEntry :=
  .warning "chunk does not start where the previous one ended"
    [("identity", segment.label), ("modification_count", decimal chunk.modificationCount.toNat),
      ("expected", decimal expected.toNat), ("actual", decimal chunk.startOffset.toNat)]

/-- What is reported of chunks that do not start where the one before them ended. -/
def gapsFrom (segment : Segment) : (expected : UInt64) → List Chunk →
    Except Overflow Unit × List LogEntry
  | _, [] => (.ok (), [])
  | expected, chunk :: rest =>
    let found := if chunk.startOffset = expected then [] else [gapEntry segment chunk expected]
    match chunk.endOffset with
    | .error overflow => (.error overflow, found)
    | .ok next =>
      let (outcome, later) := gapsFrom segment next rest
      (outcome, found ++ later)

def gaps (segment : Segment) (plan : ReadPlan) : Except Overflow Unit × List LogEntry :=
  match plan.chunks with
  | [] => (.ok (), [])
  | first :: rest => gapsFrom segment first.startOffset (first :: rest)

/-- The plan that comes of the rows for a segment, and the bytes that it promises. -/
def planOf (rows : List Chunk) (segment : Segment) (host : Host π) :
    Except Failure (ReadPlan × UInt64) × Host π :=
  let resolution := ReadPlan.resolve rows
  let host := host.reportAll resolution.journal
  match resolution.outcome with
  | .error error =>
    let remark := "Cannot build read plan for " ++ segment.label
    (.error ((Failure.ofClient error).remark remark), host)
  | .ok plan =>
    let (outcome, journal) := gaps segment plan
    let host := host.reportAll journal
    match outcome with
    | .error overflow => (.error (.overflow overflow), host)
    | .ok () =>
      match plan.totalBytes with
      | .error overflow => (.error (.overflow overflow), host)
      | .ok total => (.ok (plan, total), host)

def plan (catalog : γ) (segment : Segment) (host : Host π) :
    Except Failure (ReadPlan × UInt64) × Host π :=
  match ChunkCatalog.fetch catalog segment with
  | .error error =>
    let remark := "Failed to fetch chunk metadata for " ++ segment.label
    (.error ((Failure.ofClient error).remark remark), host)
  | .ok rows => planOf rows segment host

/-! ### The file -/

/-- Make the directory of a file, and a temporary file in it. -/
def prepare (path : String) (disk : Disk) : Except Failure Location × Disk :=
  let directory := Path.directory path
  match disk.makeDirectories directory with
  | (.error error, disk) => (.error (.ofIo error), disk)
  | (.ok (), disk) =>
    match disk.makeTemporary directory with
    | (.error error, disk) =>
      (.error ((Failure.ofIo error).remark ("Failed to create temp file in " ++ directory)), disk)
    | (.ok temporary, disk) => (.ok temporary, disk)

abbrev Copying (π : Type) := Transfer (ClientDownload π) OpenFile

def beginCopying (config : ClientConfig) (plan : ReadPlan) (temporary : Location) (host : Host π) :
    Copying π where
  source := ⟨host.disk, .ofPlan config plan, host.client⟩
  sink := ⟨host.disk, temporary⟩
  moved := 0

/-- The host after copying, without the connection that may still be open. -/
def hostAfter (copying : Copying π) : Host π where
  client := copying.source.download.hangUp copying.source.client
  disk := copying.sink.disk

/-- The host after a failure that does not keep the temporary file. -/
def discard (temporary : Location) (host : Host π) : Host π :=
  { host with disk := host.disk.erase temporary }

def publish (segment : Segment) (path : String) (temporary : Location)
    (plan : ReadPlan) (promised : UInt64) (moved : Nat) (host : Host π) :
    Except Failure LoadOutcome × Host π :=
  if moved ≠ promised.toNat then
    (.error (.stated s!"loaded {moved} bytes for {segment.label}, read plan promised {promised}"),
      discard temporary host)
  else
    match host.disk.sync with
    | (.error error, disk) => (.error (.ofIo error), discard temporary { host with disk })
    | (.ok (), disk) =>
      match disk.persist temporary path with
      | (.error error, disk) =>
        (.error (.failed ["Failed to move loaded segment to " ++ path] (.persist error temporary)),
          { host with disk })
      | (.ok (), disk) =>
        (.ok (.loaded moved plan.chunks.length plan.duplicates.length), { host with disk })

/-- What follows once copying has come to an end. -/
def finish (segment : Segment) (path : String) (temporary : Location) (plan : ReadPlan)
    (promised : UInt64) (outcome : Except TransferError Nat) (copying : Copying π) :
    Except Failure LoadOutcome × Host π :=
  let host := hostAfter copying
  match outcome with
  | .error error =>
    (.error (error.toFailure.remark ("Failed to load " ++ segment.label)), discard temporary host)
  | .ok moved => publish segment path temporary plan promised moved host

def copy (config : ClientConfig) (segment : Segment) (path : String) (plan : ReadPlan)
    (promised : UInt64) (host : Host π) : Except Failure LoadOutcome × Host π :=
  match prepare path host.disk with
  | (.error failure, disk) => (.error failure, { host with disk })
  | (.ok temporary, disk) =>
    let copying := beginCopying config plan temporary { host with disk }
    let (outcome, copied) :=
      Transfer.drain config.readBufferSize.toNat copying.source copying.sink
    finish segment path temporary plan promised outcome copied

/-- Make sure that a segment's file is there. -/
def load (config : ClientConfig) (catalog : γ) (segment : Segment) (path : String)
    (host : Host π) : Except Failure LoadOutcome × Host π :=
  if host.disk.isPresent path then (.ok .alreadyPresent, host)
  else
    match plan catalog segment host with
    | (.error failure, host) => (.error failure, host)
    | (.ok (plan, promised), host) => copy config segment path plan promised host

/-! ### Several files -/

structure Job where
  segment : Segment
  path : String
deriving DecidableEq, Repr

/-- Load files one after the other.  What the loads report goes nowhere. -/
def loadEach (config : ClientConfig) (catalog : γ) : List Job → Host π →
    List (Except Failure LoadOutcome) × Host π
  | [], host => ([], host)
  | job :: rest, host =>
    let (outcome, loaded) := load config catalog job.segment job.path host
    let client := { loaded.client with journal := host.client.journal }
    let (outcomes, host) := loadEach config catalog rest { loaded with client }
    (outcome :: outcomes, host)

/-- The overflow that a result is, if it is one. -/
def overflow? : Except Failure LoadOutcome → Option Overflow
  | .error (.overflow overflow) => some overflow
  | _ => none

/-- Let go of the outcomes of loads, and so of the files that failures among them keep. -/
def letGo (outcomes : List (Except Failure LoadOutcome)) (disk : Disk) : Disk :=
  outcomes.foldl (fun disk outcome =>
    match outcome with
    | .ok _ => disk
    | .error failure => failure.letGo disk) disk

/-- Load several files.  The loads do not depend on each other; an overflow in one ends all. -/
def loadAll (config : ClientConfig) (catalog : γ) (jobs : List Job) (host : Host π) :
    Except Failure (List (Except Failure LoadOutcome)) × Host π :=
  let (outcomes, host) := loadEach config catalog jobs host
  match outcomes.findSome? overflow? with
  | some overflow => (.error (.overflow overflow), { host with disk := letGo outcomes host.disk })
  | none => (.ok outcomes, host)

end Load

end SegmentOffload
