import SegmentOffload.Decimal
import SegmentOffload.Md5
import SegmentOffload.Overflow

/-!
Segment files, the chunks that hold their bytes, and where chunks are stored.

A segment file is named by six coordinates.  Everything one segment stores lies below its namespace,
all files of a relation below the relation's path, all chunks of a file below the file's path; a
chunk's own path adds its modification count and, when there is one, its log position.
-/

namespace SegmentOffload

/-- One remote object that holds a contiguous slice of a segment file. -/
structure Chunk where
  modificationCount : UInt64
  /-- Orders chunks of one modification count. -/
  logPosition : UInt64
  remotePath : String
  byteLength : UInt64
  startOffset : UInt64
  encrypted : Bool
deriving DecidableEq, Repr

namespace Chunk

def endOffset (chunk : Chunk) : Except Overflow UInt64 :=
  addWords chunk.startOffset chunk.byteLength

def isEmpty (chunk : Chunk) : Bool :=
  chunk.byteLength == 0

end Chunk

/-- The coordinates of one local segment file. -/
structure Segment where
  segmentIndex : UInt32
  tableSpaceOid : UInt32
  databaseOid : UInt32
  /-- A digest that stands for the relation's qualified name. -/
  relationHash : String
  relfilenode : UInt32
  blockNumber : UInt32
deriving DecidableEq, Repr

def namespacePath (segmentIndex : UInt32) : String :=
  "/segments_005/seg" ++ decimal segmentIndex.toNat ++ "/basebackups_005/yezzey/"

def chunkPath (filePath : String) (modificationCount logPosition : UInt64) : String :=
  let stem := filePath ++ "_DY_" ++ decimal modificationCount.toNat
  if logPosition = 0 then stem else stem ++ "_xlog_" ++ decimal logPosition.toNat

/-- The digest of a qualified relation name, in hexadecimal. -/
def relationHash (schema relation : String) : String :=
  (Md5.digest (textBytes (schema ++ "." ++ relation))).hex

def segmentFileName (relfilenode blockNumber : UInt32) : String :=
  if blockNumber = 0 then decimal relfilenode.toNat
  else decimal relfilenode.toNat ++ "." ++ decimal blockNumber.toNat

namespace Segment

/-- Where all chunks of all files of the relation lie. -/
def relationPath (segment : Segment) : String :=
  namespacePath segment.segmentIndex ++ decimal segment.tableSpaceOid.toNat ++ "_" ++
    decimal segment.databaseOid.toNat ++ "_" ++ segment.relationHash

def filePath (segment : Segment) : String :=
  segment.relationPath ++ "_" ++ decimal segment.relfilenode.toNat ++ "_" ++
    decimal segment.blockNumber.toNat ++ "_"

def chunkPath (segment : Segment) (modificationCount logPosition : UInt64) : String :=
  SegmentOffload.chunkPath segment.filePath modificationCount logPosition

/-- The file with another block number, otherwise the same. -/
def withBlock (segment : Segment) (blockNumber : UInt32) : Segment :=
  { segment with blockNumber }

def label (segment : Segment) : String :=
  s!"seg{segment.segmentIndex}:{segment.tableSpaceOid}/{segment.databaseOid}/" ++
    s!"{segment.relfilenode}.{segment.blockNumber}"

end Segment

end SegmentOffload
