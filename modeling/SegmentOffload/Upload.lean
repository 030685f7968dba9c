import SegmentOffload.Client
import SegmentOffload.ClientConfig
import SegmentOffload.Chunk

/-!
Writing one new chunk through the proxy.

An upload connects when it is first needed and announces the chunk; every piece that is not empty
goes in a message of its own; closing completes the request and waits for the acknowledgement.
Nothing is ever tried again: after a failure the upload is of no more use, and the chunk has to be
uploaded anew.
-/

namespace SegmentOffload

open Wire (Message)

inductive UploadPhase where
  | pending
  | opened (session : Session)
  | closed
  | failed
deriving DecidableEq, Repr

namespace UploadPhase

def name : UploadPhase → String
  | pending => "pending"
  | opened _ => "open"
  | closed => "closed"
  | failed => "failed"

end UploadPhase

structure Upload where
  config : ClientConfig
  modificationCount : UInt64
  logPosition : UInt64
  remotePath : String
  isMultipart : Bool
  phase : UploadPhase
  /-- The bytes in pieces that were sent. -/
  written : Nat
deriving DecidableEq, Repr

namespace Upload

variable {π : Type} [Peer π]

/-- An upload of a chunk of a segment; its path is settled here, and so is whether it is announced
as a multipart upload. -/
def new (config : ClientConfig) (segment : Segment) (modificationCount logPosition : UInt64)
    (plannedLength : UInt64) : Upload where
  config
  modificationCount
  logPosition
  remotePath := segment.chunkPath modificationCount logPosition
  isMultipart := config.wantsMultipart plannedLength
  phase := .pending
  written := 0

def isClosed (upload : Upload) : Bool :=
  upload.phase = .closed

def announcement (upload : Upload) : Wire.PutRequest where
  remotePath := upload.remotePath
  encrypt := upload.config.encrypt
  storageClass := upload.config.storageClass
  multipartChunkSize := upload.config.multipartChunkSize
  multipartUpload := upload.isMultipart
  tableSpace := upload.config.tableSpace

def rejected (upload : Upload) (call : String) : ClientError :=
  .protocolViolation s!"{call} on {upload.phase.name} writer for {upload.remotePath}"

def fields (upload : Upload) : List (String × String) :=
  [("remote_path", upload.remotePath), ("bytes", decimal upload.written)]

/-- Let go of the connection, when there is one. -/
def hangUp (upload : Upload) (client : Client π) : Client π :=
  match upload.phase with
  | .opened session => { client with network := session.close client.network }
  | _ => client

def giveUp (upload : Upload) (error : ClientError) (client : Client π) :
    Except ClientError Unit × Upload × Client π :=
  (.error error, { upload with phase := .failed },
    (upload.hangUp client).report
      (.error ("upload failed: " ++ error.message) upload.fields))

def announce (upload : Upload) (disk : Disk) (network : Network π) :
    Except ClientError Session × Network π :=
  match Session.connect disk upload.config.socketPath upload.remotePath network with
  | (.error error, network) => (.error error, network)
  | (.ok session, network) =>
    match session.send (Message.put upload.announcement).encode "starting upload" network with
    | (.error error, network) => (.error error, network)
    | (.ok (), network) => (.ok session, network)

def start (upload : Upload) (disk : Disk) (client : Client π) :
    Except ClientError Unit × Upload × Client π :=
  match upload.phase with
  | .opened _ => (.ok (), upload, client)
  | .pending =>
    match upload.announce disk client.network with
    | (.ok session, network) =>
      (.ok (), { upload with phase := .opened session }, { client with network })
    | (.error error, network) => upload.giveUp error { client with network }
  | _ => (.error (upload.rejected "open"), upload, client)

def sendPiece (upload : Upload) (data : Bytes) (client : Client π) :
    Except ClientError Unit × Upload × Client π :=
  match upload.phase with
  | .opened session =>
    match session.send (Message.copyData data).encode "uploading chunk data" client.network with
    | (.ok (), network) =>
      (.ok (), { upload with written := upload.written + data.length }, { client with network })
    | (.error error, network) => upload.giveUp error { client with network }
  | _ => (.error (upload.rejected "write"), upload, client)

/-- Write bytes; empty ones only make sure that the upload is started. -/
def write (upload : Upload) (data : Bytes) (disk : Disk) (client : Client π) :
    Except ClientError Unit × Upload × Client π :=
  match upload.start disk client with
  | (.error error, upload, client) => (.error error, upload, client)
  | (.ok (), upload, client) =>
    if data.isEmpty then (.ok (), upload, client) else upload.sendPiece data client

/-- Finish the upload.  One that was never started has nothing to finish. -/
def close (upload : Upload) (client : Client π) : Except ClientError Unit × Upload × Client π :=
  match upload.phase with
  | .closed => (.ok (), upload, client)
  | .pending => (.ok (), { upload with phase := .closed }, client)
  | .failed => (.error (upload.rejected "close"), upload, client)
  | .opened session =>
    match session.complete "finishing upload" client.network with
    | (.ok (), network) =>
      (.ok (), { upload with phase := .closed }, upload.hangUp { client with network })
    | (.error error, network) => upload.giveUp error { client with network }

/-- What the catalog is to know of the chunk once it is sealed. -/
def chunk (upload : Upload) (startOffset : UInt64) : Chunk where
  modificationCount := upload.modificationCount
  logPosition := upload.logPosition
  remotePath := upload.remotePath
  byteLength := UInt64.ofNat upload.written
  startOffset
  encrypted := upload.config.encrypt

/-- Let go of an upload, finished or not. -/
def abandon (upload : Upload) (client : Client π) : Client π :=
  match upload.phase with
  | .opened _ =>
    (upload.hangUp client).report (.warning "dropping unsealed upload" upload.fields)
  | _ => client

end Upload

end SegmentOffload
