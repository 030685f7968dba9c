import SegmentOffload.Client
import SegmentOffload.ClientConfig
import SegmentOffload.ReadPlan
import SegmentOffload.Transfer

/-!
Reading the bytes of planned chunks through the proxy.

A download walks its chunks one connection at a time.  A chunk is asked for from the offset up to
which it has been handed out, so when a connection fails before the chunk is complete the next one
resumes there and every byte is handed out once.  Failures on one chunk are counted together and
forgiven only when the chunk is complete; when their number reaches the retry limit the download has
failed for good.  No pull hands out bytes of two chunks.
-/

namespace SegmentOffload

inductive DownloadPhase where
  /-- Nothing has been asked for. -/
  | idle
  /-- A chunk, or the rest of one, needs a new connection. -/
  | awaiting
  | streaming (session : Session)
  | exhausted
  /-- The download was given up, for the reason in the text. -/
  | failed (account : String)
deriving DecidableEq, Repr

namespace DownloadPhase

def name : DownloadPhase → String
  | idle => "Idle"
  | awaiting => "AwaitingChunkOpen"
  | streaming _ => "Streaming"
  | exhausted => "Exhausted"
  | failed _ => "Failed"

def isFinal : DownloadPhase → Bool
  | exhausted => true
  | failed _ => true
  | _ => false

end DownloadPhase

structure Download where
  config : ClientConfig
  chunks : List Chunk
  /-- The number of chunks that are complete. -/
  position : Nat
  /-- The bytes that the chunk at the position still owes; zero before it is begun. -/
  remaining : Nat
  /-- The bytes of the chunk last begun that have been handed out. -/
  consumed : Nat
  /-- The failures on the chunk at the position. -/
  failures : Nat
  phase : DownloadPhase
  /-- All bytes that have been handed out. -/
  delivered : Nat
deriving DecidableEq, Repr

namespace Download

variable {π : Type} [Peer π]

/-- A download of given chunks in the given order, without the empty ones. -/
def ofChunks (config : ClientConfig) (chunks : List Chunk) : Download where
  config
  chunks := chunks.filter fun chunk => !chunk.isEmpty
  position := 0
  remaining := 0
  consumed := 0
  failures := 0
  phase := .idle
  delivered := 0

def ofPlan (config : ClientConfig) (plan : ReadPlan) : Download :=
  ofChunks config plan.chunks

def totalBytes (download : Download) : Except Overflow UInt64 :=
  sumWords (download.chunks.map Chunk.byteLength)

def isExhausted (download : Download) : Bool :=
  download.phase = .exhausted ||
    (download.chunks.length ≤ download.position && download.remaining == 0)

def currentPath (download : Download) : String :=
  match download.chunks[download.position]? with
  | some chunk => chunk.remotePath
  | none => ""

def patience (download : Download) : Nat :=
  download.config.retryLimit.toNat - 1 - download.failures

/-- Let go of the connection, when there is one. -/
def hangUp (download : Download) (client : Client π) : Client π :=
  match download.phase with
  | .streaming session => { client with network := session.close client.network }
  | _ => client

/-! ### Steps of a pull -/

/-- How a chunk is asked for from an offset on. -/
def question (config : ClientConfig) (chunk : Chunk) (offset : Nat) : Wire.Message :=
  .cat (.resuming chunk.remotePath chunk.encrypted (UInt64.ofNat offset) config.tableSpace)

def request (config : ClientConfig) (chunk : Chunk) (offset : Nat) (disk : Disk)
    (network : Network π) : Except ClientError Session × Network π :=
  match Session.connect disk config.socketPath chunk.remotePath network with
  | (.error error, network) => (.error error, network)
  | (.ok session, network) =>
    match session.send (question config chunk offset).encode "requesting chunk" network with
    | (.error error, network) => (.error error, network)
    | (.ok (), network) => (.ok session, network)

/-- Make the chunk at the position the one being read, unless one is being read already. -/
def begin (download : Download) (chunk : Chunk) : Download :=
  if download.remaining = 0 then
    { download with consumed := 0, remaining := chunk.byteLength.toNat }
  else download

def endedEarly (download : Download) : ClientError :=
  .transport "reading chunk" download.currentPath .endedInsideChunk

/-- Count bytes as handed out, and go on to the next chunk when this one is complete. -/
def advance (download : Download) (count : Nat) : Download :=
  let moved :=
    { download with
      consumed := download.consumed + count
      remaining := download.remaining - count
      delivered := download.delivered + count }
  if moved.remaining = 0 then
    { moved with
      position := download.position + 1
      failures := 0
      phase := if download.chunks.length ≤ download.position + 1 then .exhausted else .awaiting }
  else moved

inductive Attempt (π : Type) where
  | bytes (data : Bytes) (download : Download) (client : Client π)
  | endOfStream (download : Download) (client : Client π)
  | failure (error : ClientError) (download : Download) (client : Client π)

def readFrom (session : Session) (capacity : Nat) (download : Download) (client : Client π) :
    Attempt π :=
  match session.read (min capacity download.remaining) client.network with
  | (.error error, network) =>
    .failure (.transport "reading chunk" download.currentPath error) download
      { client with network }
  | (.ok [], network) => .failure download.endedEarly download { client with network }
  | (.ok data, network) =>
    let advanced := download.advance data.length
    let client := { client with network }
    .bytes data advanced (if advanced.remaining = 0 then download.hangUp client else client)

/-- Get bytes, over a new connection when none is open. -/
def attempt (capacity : Nat) (disk : Disk) (download : Download) (client : Client π) : Attempt π :=
  match download.phase with
  | .streaming session => readFrom session capacity download client
  | _ =>
    match download.chunks[download.position]? with
    | none => .endOfStream { download with phase := .exhausted } client
    | some chunk =>
      let download := download.begin chunk
      match request download.config chunk download.consumed disk client.network with
      | (.error error, network) => .failure error download { client with network }
      | (.ok session, network) =>
        readFrom session capacity { download with phase := .streaming session }
          { client with network }

/-! ### Failures -/

def retryEntry (download : Download) (error : ClientError) : LogEntry :=
  .warning ("reacquiring proxy connection: " ++ error.message)
    [("remote_path", download.currentPath), ("offset", decimal download.consumed),
      ("attempt", decimal download.failures)]

def failureEntry (download : Download) (error : ClientError) : LogEntry :=
  .error ("chunk read failed: " ++ error.message) [("attempts", decimal download.failures)]

def exhaustedRetries (download : Download) (lastError : String) : ClientError :=
  .retryExhausted download.currentPath (UInt64.ofNat download.consumed) download.failures lastError

def afterFailure (download : Download) : Download :=
  { download with failures := download.failures + 1, phase := .awaiting }

def giveUp (download : Download) (error : ClientError) (client : Client π) :
    ClientError × Download × Client π :=
  let final := if error.isRetryable then download.exhaustedRetries error.message else error
  (final, { download with phase := .failed final.message },
    client.report (download.failureEntry final))

/-! ### Pulling -/

/-- Attempt again and again, forgiving so many failures. -/
def pullPatiently (capacity : Nat) (disk : Disk) : (patience : Nat) → Download → Client π →
    Except ClientError Pulled × Download × Client π
  | patience, download, client =>
    match download.attempt capacity disk client with
    | .bytes data download client => (.ok (.bytes data), download, client)
    | .endOfStream download client => (.ok .endOfStream, download, client)
    | .failure error failed client =>
      let client := failed.hangUp client
      let download := failed.afterFailure
      match patience, error.isRetryable with
      | patience + 1, true =>
        pullPatiently capacity disk patience download (client.report (download.retryEntry error))
      | _, _ =>
        let (error, download, client) := download.giveUp error client
        (.error error, download, client)

/-- Hand out the next bytes, at most `capacity` many. -/
def pull (capacity : Nat) (disk : Disk) (download : Download) (client : Client π) :
    Except ClientError Pulled × Download × Client π :=
  match download.phase with
  | .failed account => (.error (download.exhaustedRetries account), download, client)
  | .exhausted => (.ok .endOfStream, download, client)
  | _ =>
    if capacity = 0 then (.ok (.bytes []), download, client)
    else pullPatiently capacity disk download.patience download client

/-- Pull as a plain reader of bytes does: the end of the stream is that no bytes are left, and what
went wrong is told by its message alone. -/
def read (capacity : Nat) (disk : Disk) (download : Download) (client : Client π) :
    Except IoError Bytes × Download × Client π :=
  match download.pull capacity disk client with
  | (.ok (.bytes data), download, client) => (.ok data, download, client)
  | (.ok .endOfStream, download, client) => (.ok [], download, client)
  | (.error error, download, client) => (.error (.other "Other" error.message), download, client)

end Download

end SegmentOffload
