import SegmentOffload.Chunk
import SegmentOffload.Json.Record
import SegmentOffload.Wire.Message

/-!
Segments, chunks, objects and catalog rows as JSON records.

Numbers are unsigned integers of the width of their field.  A chunk that does not say whether it is
encrypted is not.
-/

namespace SegmentOffload

open Wire (ObjectMeta)

namespace Segment

def fieldNames : List String :=
  ["segment_index", "table_space_oid", "database_oid", "relation_hash", "relfilenode",
    "block_number"]

def toJson (segment : Segment) : JsonValue :=
  .ofFields [("segment_index", .ofHalfWord segment.segmentIndex),
    ("table_space_oid", .ofHalfWord segment.tableSpaceOid),
    ("database_oid", .ofHalfWord segment.databaseOid),
    ("relation_hash", .ofString segment.relationHash),
    ("relfilenode", .ofHalfWord segment.relfilenode),
    ("block_number", .ofHalfWord segment.blockNumber)]

def ofJson? (value : JsonValue) : Option Segment := do
  let record ← value.record? fieldNames
  return {
    segmentIndex := ← record.required "segment_index" JsonValue.halfWord?
    tableSpaceOid := ← record.required "table_space_oid" JsonValue.halfWord?
    databaseOid := ← record.required "database_oid" JsonValue.halfWord?
    relationHash := ← record.required "relation_hash" JsonValue.string?
    relfilenode := ← record.required "relfilenode" JsonValue.halfWord?
    blockNumber := ← record.required "block_number" JsonValue.halfWord? }

end Segment

namespace Chunk

def fieldNames : List String :=
  ["modification_count", "log_position", "remote_path", "byte_length", "start_offset", "encrypted"]

def toJson (chunk : Chunk) : JsonValue :=
  .ofFields [("modification_count", .ofWord chunk.modificationCount),
    ("log_position", .ofWord chunk.logPosition),
    ("remote_path", .ofString chunk.remotePath),
    ("byte_length", .ofWord chunk.byteLength),
    ("start_offset", .ofWord chunk.startOffset),
    ("encrypted", .boolean chunk.encrypted)]

def ofJson? (value : JsonValue) : Option Chunk := do
  let record ← value.record? fieldNames
  return {
    modificationCount := ← record.required "modification_count" JsonValue.word?
    logPosition := ← record.required "log_position" JsonValue.word?
    remotePath := ← record.required "remote_path" JsonValue.string?
    byteLength := ← record.required "byte_length" JsonValue.word?
    startOffset := ← record.required "start_offset" JsonValue.word?
    encrypted := ← record.optional "encrypted" JsonValue.boolean? false }

end Chunk

namespace Wire.ObjectMeta

def toJson (entry : ObjectMeta) : JsonValue :=
  .ofFields [("path", .ofString entry.path), ("size", .ofWord entry.size)]

def ofJson? (value : JsonValue) : Option ObjectMeta := do
  let record ← value.record? ["path", "size"]
  return {
    path := ← record.required "path" JsonValue.string?
    size := ← record.required "size" JsonValue.word? }

end Wire.ObjectMeta

/-- What a catalog knows of one chunk: the chunk, and the segment it belongs to. -/
structure CatalogRow where
  segment : Segment
  chunk : Chunk
deriving DecidableEq, Repr

namespace CatalogRow

def toJson (row : CatalogRow) : JsonValue :=
  .ofFields [("segment", row.segment.toJson), ("chunk", row.chunk.toJson)]

def ofJson? (value : JsonValue) : Option CatalogRow := do
  let record ← value.record? ["segment", "chunk"]
  return {
    segment := ← record.required "segment" Segment.ofJson?
    chunk := ← record.required "chunk" Chunk.ofJson? }

end CatalogRow

end SegmentOffload
