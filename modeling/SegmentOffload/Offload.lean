import SegmentOffload.Catalog
import SegmentOffload.Host
import SegmentOffload.Upload

/-!
Moving the new bytes of a segment file into a chunk.

One chunk takes the bytes from what the earlier chunks hold up to the logical end of the file.  The
chunk is described only after the proxy has acknowledged it, and the catalog learns of it last.
-/

namespace SegmentOffload

namespace Offload

variable {π : Type} [Peer π]

/-- An upload on its way, with what it works with. -/
structure Progress (π : Type) where
  upload : Upload
  host : Host π

def Progress.run (progress : Progress π)
    (step : Upload → Client π → Except ClientError Unit × Upload × Client π) :
    Except Failure Unit × Progress π :=
  let (outcome, upload, client) := step progress.upload progress.host.client
  (outcome.mapError Failure.ofClient, ⟨upload, { progress.host with client }⟩)

/-- Send so many bytes of a file from an offset on, in pieces of at most the buffer's size. -/
def sendRange (node : Node) (bufferSize offset remaining : Nat) (progress : Progress π) :
    Except Failure Unit × Progress π :=
  if remaining = 0 then (.ok (), progress)
  else
    match progress.host.disk.readAt node offset (min remaining bufferSize) with
    | (.error error, disk) =>
      (.error (.ofIo error), { progress with host := { progress.host with disk } })
    | (.ok [], disk) =>
      (.error (.stated s!"segment file ended {remaining} bytes early"),
        { progress with host := { progress.host with disk } })
    | (.ok (first :: rest), disk) =>
      let data := first :: rest
      let progress := { progress with host := { progress.host with disk } }
      match progress.run fun upload client => upload.write data disk client with
      | (.error failure, progress) => (.error failure, progress)
      | (.ok (), progress) =>
        sendRange node bufferSize (offset + data.length) (remaining - data.length) progress
termination_by remaining
decreasing_by
  simp only [List.length_cons]
  omega

/-- Start the upload, send a range of a file, and have it acknowledged. -/
def transfer (config : ClientConfig) (path : String) (node : Node) (offset length : Nat)
    (progress : Progress π) : Except Failure Unit × Progress π :=
  let remotePath := progress.upload.remotePath
  match progress.run fun upload client => upload.start progress.host.disk client with
  | (.error failure, progress) =>
    (.error (failure.remark ("Failed to start upload of " ++ remotePath)), progress)
  | (.ok (), progress) =>
    match sendRange node config.readBufferSize.toNat offset length progress with
    | (.error failure, progress) =>
      (.error (failure.remark ("Failed to upload " ++ path ++ " to " ++ remotePath)), progress)
    | (.ok (), progress) =>
      match progress.run Upload.close with
      | (.error failure, progress) =>
        (.error (failure.remark ("Proxy did not acknowledge " ++ remotePath)), progress)
      | (.ok (), progress) => (.ok (), progress)

/-- Upload the bytes of a file from an offset up to its logical end as one chunk. -/
def offload (config : ClientConfig) (segment : Segment) (modificationCount logPosition : UInt64)
    (path : String) (logicalEnd alreadyOffloaded : UInt64) (host : Host π) :
    Except Failure Chunk × Host π :=
  match host.disk.openNode path with
  | .error error =>
    (.error ((Failure.ofIo error).remark ("Failed to open segment file " ++ path)), host)
  | .ok node =>
    if node.size < logicalEnd.toNat then
      (.error (.stated (s!"segment file {path} is {node.size} bytes, " ++
        s!"shorter than logical EOF {logicalEnd}")), host)
    else if logicalEnd < alreadyOffloaded then
      (.error (.stated (s!"offloaded offset {alreadyOffloaded} is past logical EOF {logicalEnd} " ++
        s!"for {segment.label}")), host)
    else
      let upload :=
        Upload.new config segment modificationCount logPosition (UInt64.ofNat node.size)
      match transfer config path node alreadyOffloaded.toNat
          (logicalEnd.toNat - alreadyOffloaded.toNat) ⟨upload, host⟩ with
      | (.error failure, progress) =>
        (.error failure,
          { progress.host with client := progress.upload.abandon progress.host.client })
      | (.ok (), progress) => (.ok (progress.upload.chunk alreadyOffloaded), progress.host)

/-- Where the next chunk of a segment starts, and its modification count. -/
def nextChunk (catalog : Catalog) (segment : Segment) : Except Overflow (UInt64 × UInt64) := do
  let alreadyOffloaded ← catalog.offloadedEnd segment
  let modificationCount ← addWords ((catalog.lastModificationCount segment).getD 0) 1
  return (alreadyOffloaded, modificationCount)

/-- Upload whatever the catalog does not hold yet, and record it. -/
def offloadAndRecord (config : ClientConfig) (catalog : Catalog) (segment : Segment)
    (logPosition : UInt64) (path : String) (host : Host π) :
    Except Failure (Option Chunk) × Catalog × Host π :=
  match nextChunk catalog segment with
  | .error overflow => (.error (.overflow overflow), catalog, host)
  | .ok (alreadyOffloaded, modificationCount) =>
    match host.disk.stat path with
    | .error error =>
      (.error ((Failure.ofIo error).remark ("Failed to stat segment file " ++ path)), catalog, host)
    | .ok node =>
      let logicalEnd := UInt64.ofNat node.size
      if logicalEnd = alreadyOffloaded then (.ok none, catalog, host)
      else
        match offload config segment modificationCount logPosition path logicalEnd
            alreadyOffloaded host with
        | (.error failure, host) => (.error failure, catalog, host)
        | (.ok chunk, host) =>
          match catalog.record ⟨segment, chunk⟩ host.disk with
          | (.ok (), catalog, disk) => (.ok (some chunk), catalog, { host with disk })
          | (.error error, catalog, disk) =>
            (.error ((Failure.ofClient error).remark
              ("Failed to record chunk " ++ chunk.remotePath)), catalog, { host with disk })

end Offload

end SegmentOffload
