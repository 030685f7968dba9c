import SegmentOffload.ClientError
import SegmentOffload.Disk
import SegmentOffload.Environment
import SegmentOffload.Json.Parse
import SegmentOffload.Records

/-!
The catalog of sealed chunks, kept in one file.

Rows stay as they were recorded, in order and with repetitions.  Every change writes the whole file
anew under a temporary name and renames it; the rows in memory change only after that went well, so
memory and file always agree.
-/

namespace SegmentOffload

structure Catalog where
  path : String
  rows : List CatalogRow
deriving DecidableEq, Repr

namespace Catalog

/-! ### The file -/

def formatVersion : UInt32 := 1

def document (rows : List CatalogRow) : JsonValue :=
  .ofFields [("version", .ofHalfWord formatVersion), ("rows", .list (rows.map CatalogRow.toJson))]

def readDocument? (text : String) : Option (UInt32 × List CatalogRow) := do
  let value ← JsonValue.parse text
  let record ← value.record? ["version", "rows"]
  let version ← record.required "version" JsonValue.halfWord?
  let rows ← record.required "rows" (JsonValue.list? CatalogRow.ofJson?)
  return (version, rows)

def readRows (disk : Disk) (path : String) : Except ClientError (List CatalogRow) :=
  match disk.text path with
  | .error error => .error (.io error)
  | .ok text =>
    match readDocument? text with
    | none => .error (.catalog ("failed to parse " ++ path))
    | some (version, rows) =>
      if version = formatVersion then .ok rows
      else .error (.catalog s!"{path} has format version {version}, expected {formatVersion}")

/-- The catalog at a path; a missing file holds no rows. -/
def openFile (disk : Disk) (path : String) : Except ClientError Catalog :=
  if disk.isPresent path then
    match readRows disk path with
    | .ok rows => .ok ⟨path, rows⟩
    | .error error => .error error
  else .ok ⟨path, []⟩

def defaultPath (environment : Environment) : Except ClientError String :=
  match environment.dataDirectory? with
  | some directory => .ok (Path.join (Path.join directory "yproxy-client") "catalog.json")
  | none => .error (.catalog "cannot determine data directory")

def fill (disk : Disk) (temporary : Location) (rows : List CatalogRow) :
    Except IoError Unit × Disk :=
  match disk.append temporary (textBytes (document rows).pretty) with
  | (.error error, disk) => (.error error, disk.erase temporary)
  | (.ok (), disk) =>
    match disk.sync with
    | (.error error, disk) => (.error error, disk.erase temporary)
    | (.ok (), disk) => (.ok (), disk)

/-- Replace the file at a path by one that holds the rows. -/
def save (disk : Disk) (path : String) (rows : List CatalogRow) :
    Except ClientError Unit × Disk :=
  let directory := Path.directory path
  match disk.makeDirectories directory with
  | (.error error, disk) => (.error (.io error), disk)
  | (.ok (), disk) =>
    match disk.makeTemporary directory with
    | (.error error, disk) => (.error (.io error), disk)
    | (.ok temporary, disk) =>
      match fill disk temporary rows with
      | (.error error, disk) => (.error (.io error), disk)
      | (.ok (), disk) =>
        match disk.persist temporary path with
        | (.error error, disk) =>
          (.error (.catalog
            ("failed to persist " ++ path ++ ": failed to persist temporary file: " ++
              error.message)), disk.erase temporary)
        | (.ok (), disk) => (.ok (), disk)

/-! ### Asking -/

/-- The chunks of one segment, in the order they were recorded. -/
def chunksOf (catalog : Catalog) (segment : Segment) : List Chunk :=
  (catalog.rows.filter fun row => row.segment = segment).map CatalogRow.chunk

def greatest? : List UInt64 → Option UInt64
  | [] => none
  | word :: rest =>
    match greatest? rest with
    | none => some word
    | some other => some (max word other)

/-- The greatest modification count of a segment's chunks. -/
def lastModificationCount (catalog : Catalog) (segment : Segment) : Option UInt64 :=
  greatest? ((catalog.chunksOf segment).map Chunk.modificationCount)

/-- The offset up to which a segment's chunks reach. -/
def offloadedEnd (catalog : Catalog) (segment : Segment) : Except Overflow UInt64 :=
  match (catalog.chunksOf segment).mapM Chunk.endOffset with
  | .ok ends => .ok ((greatest? ends).getD 0)
  | .error overflow => .error overflow

end Catalog

/-- Something that is asked for the chunks of a segment, which it tells in no order and with
repetitions, or fails to. -/
class ChunkCatalog (γ : Type) where
  fetch : γ → Segment → Except ClientError (List Chunk)

instance : ChunkCatalog Catalog where
  fetch catalog segment := .ok (catalog.chunksOf segment)

namespace Catalog

/-! ### Changing -/

def replace (catalog : Catalog) (rows : List CatalogRow) (disk : Disk) :
    Except ClientError Unit × Catalog × Disk :=
  match save disk catalog.path rows with
  | (.ok (), disk) => (.ok (), { catalog with rows }, disk)
  | (.error error, disk) => (.error error, catalog, disk)

def record (catalog : Catalog) (row : CatalogRow) (disk : Disk) :
    Except ClientError Unit × Catalog × Disk :=
  catalog.replace (catalog.rows ++ [row]) disk

/-- Keep some rows, and tell how many were dropped.  Nothing is saved when none is. -/
def retain (catalog : Catalog) (keep : CatalogRow → Bool) (disk : Disk) :
    Except ClientError Nat × Catalog × Disk :=
  let kept := catalog.rows.filter keep
  let dropped := catalog.rows.length - kept.length
  if dropped = 0 then (.ok 0, catalog, disk)
  else
    match catalog.replace kept disk with
    | (.ok (), changed) => (.ok dropped, changed)
    | (.error error, unchanged) => (.error error, unchanged)

def removeChunk (catalog : Catalog) (remotePath : String) (disk : Disk) :
    Except ClientError Nat × Catalog × Disk :=
  catalog.retain (fun row => row.chunk.remotePath ≠ remotePath) disk

def forget (catalog : Catalog) (segment : Segment) (disk : Disk) :
    Except ClientError Nat × Catalog × Disk :=
  catalog.retain (fun row => row.segment ≠ segment) disk

end Catalog

end SegmentOffload
