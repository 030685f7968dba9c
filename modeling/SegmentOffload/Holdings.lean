import SegmentOffload.Chunk
import SegmentOffload.Failure
import SegmentOffload.Listing
import SegmentOffload.Removal

/-!
What the proxy holds of a relation: listing it, measuring it, and removing it.
-/

namespace SegmentOffload

open Wire (ObjectMeta)

namespace Holdings

variable {π : Type} [Peer π]

def remarked {α : Type} (remark : String) (result : Except ClientError α × Client π) :
    Except Failure α × Client π :=
  (result.1.mapError fun error => (Failure.ofClient error).remark remark, result.2)

def deleteChunk (config : ClientConfig) (remotePath : String) (disk : Disk) (client : Client π) :
    Except Failure Unit × Client π :=
  remarked ("Failed to delete " ++ remotePath)
    (RemovalMode.direct.remove config remotePath disk client)

def vacuumPath (config : ClientConfig) (segmentIndex : UInt32) (confirm : Bool) (path : String)
    (disk : Disk) (client : Client π) : Except Failure Unit × Client π :=
  remarked ("Failed to vacuum " ++ path)
    ((RemovalMode.garbage segmentIndex confirm).remove config path disk client)

def vacuum (config : ClientConfig) (segmentIndex : UInt32) (confirm : Bool) (disk : Disk)
    (client : Client π) : Except Failure Unit × Client π :=
  vacuumPath config segmentIndex confirm (namespacePath segmentIndex) disk client

def vacuumRelation (config : ClientConfig) (segment : Segment) (confirm : Bool)
    (disk : Disk) (client : Client π) : Except Failure Unit × Client π :=
  vacuumPath config segment.segmentIndex confirm segment.relationPath disk client

def listChunks (config : ClientConfig) (segment : Segment) (disk : Disk) (client : Client π) :
    Except Failure (List ObjectMeta) × Client π :=
  remarked ("Failed to list " ++ segment.relationPath)
    (Listing.list config segment.relationPath disk client)

def chunkNames (config : ClientConfig) (segment : Segment) (disk : Disk) (client : Client π) :
    Except Failure (List String) × Client π :=
  match listChunks config segment disk client with
  | (.ok entries, client) => (.ok (entries.map ObjectMeta.path), client)
  | (.error failure, client) => (.error failure, client)

structure Stat where
  externalBytes : UInt64
  chunks : List ObjectMeta
deriving DecidableEq, Repr

def stat (config : ClientConfig) (segment : Segment) (disk : Disk) (client : Client π) :
    Except Failure Stat × Client π :=
  match listChunks config segment disk client with
  | (.error failure, client) => (.error failure, client)
  | (.ok chunks, client) =>
    match sumWords (chunks.map ObjectMeta.size) with
    | .ok externalBytes => (.ok ⟨externalBytes, chunks⟩, client)
    | .error overflow => (.error (.overflow overflow), client)

end Holdings

end SegmentOffload
