import SegmentOffload.ClientError
import SegmentOffload.Json.Record
import SegmentOffload.Toml.Table

/-!
How a client is set up.

Every field has a default, and a record in a file may leave any of them out.  A setup is usable when
it names a socket and when its chunk and buffer sizes are positive.
-/

namespace SegmentOffload

structure ClientConfig where
  socketPath : String
  storageClass : String
  multipartChunkSize : UInt64
  /-- Payloads that are longer than this are announced as multipart uploads. -/
  multipartThreshold : UInt64
  encrypt : Bool
  tableSpace : String
  /-- How many failures on one chunk make a reader give up. -/
  retryLimit : UInt32
  /-- How many milliseconds a reader waits before it connects again. -/
  retryBackoff : UInt64
  port : UInt64
  segmentIndex : UInt32
  readBufferSize : UInt64
deriving DecidableEq, Repr

namespace ClientConfig

def default : ClientConfig where
  socketPath := "/tmp/yproxy.sock"
  storageClass := "STANDARD"
  multipartChunkSize := 16 * 1024 * 1024
  multipartThreshold := 64 * 1024 * 1024
  encrypt := false
  tableSpace := "pg_default"
  retryLimit := 100
  retryBackoff := 1000
  port := 5432
  segmentIndex := 0
  readBufferSize := 1024 * 1024

instance : Inhabited ClientConfig := ⟨default⟩

def wantsMultipart (config : ClientConfig) (plannedLength : UInt64) : Bool :=
  config.multipartThreshold < plannedLength

def retrySeconds (config : ClientConfig) : UInt64 :=
  config.retryBackoff / 1000

def validate (config : ClientConfig) : Except ClientError Unit :=
  if config.socketPath.isEmpty then .error (.config "socket_path must not be empty")
  else if config.multipartChunkSize = 0 then
    .error (.config "multipart_chunk_size must be positive")
  else if config.readBufferSize = 0 then .error (.config "read_buffer_size must be positive")
  else .ok ()

/-! ### As a record -/

def fieldNames : List String :=
  ["socket_path", "storage_class", "multipart_chunk_size", "multipart_threshold", "encrypt",
    "table_space", "retry_limit", "retry_backoff_ms", "port", "segment_index", "read_buffer_size"]

/-- The setup that a record gives, over another one. -/
def ofJsonOver? (base : ClientConfig) (value : JsonValue) : Option ClientConfig := do
  let record ← value.record? fieldNames
  let word (name : String) (absent : UInt64) := record.optional name JsonValue.word? absent
  let halfWord (name : String) (absent : UInt32) := record.optional name JsonValue.halfWord? absent
  let string (name absent : String) := record.optional name JsonValue.string? absent
  return {
    socketPath := ← string "socket_path" base.socketPath
    storageClass := ← string "storage_class" base.storageClass
    multipartChunkSize := ← word "multipart_chunk_size" base.multipartChunkSize
    multipartThreshold := ← word "multipart_threshold" base.multipartThreshold
    encrypt := ← record.optional "encrypt" JsonValue.boolean? base.encrypt
    tableSpace := ← string "table_space" base.tableSpace
    retryLimit := ← halfWord "retry_limit" base.retryLimit
    retryBackoff := ← word "retry_backoff_ms" base.retryBackoff
    port := ← word "port" base.port
    segmentIndex := ← halfWord "segment_index" base.segmentIndex
    readBufferSize := ← word "read_buffer_size" base.readBufferSize }

/-- The setup that a record gives; what it leaves out has its default. -/
def ofJson? (value : JsonValue) : Option ClientConfig :=
  default.ofJsonOver? value

def toJson (config : ClientConfig) : JsonValue :=
  .ofFields [("socket_path", .ofString config.socketPath),
    ("storage_class", .ofString config.storageClass),
    ("multipart_chunk_size", .ofWord config.multipartChunkSize),
    ("multipart_threshold", .ofWord config.multipartThreshold),
    ("encrypt", .boolean config.encrypt),
    ("table_space", .ofString config.tableSpace),
    ("retry_limit", .ofHalfWord config.retryLimit),
    ("retry_backoff_ms", .ofWord config.retryBackoff),
    ("port", .ofWord config.port),
    ("segment_index", .ofHalfWord config.segmentIndex),
    ("read_buffer_size", .ofWord config.readBufferSize)]

end ClientConfig

/-! ### As a table -/

namespace TomlValue

mutual

/-- The same value in JSON.  Moments and negative numbers become values that no field accepts. -/
def toJson : TomlValue → JsonValue
  | .text value => .ofString value
  | .integer (.ofNat value) => .natural value
  | .integer (.negSucc value) => .number ('-' :: decimalDigits (value + 1))
  | .boolean value => .boolean value
  | .float spelling => .number spelling.toList
  | .moment spelling => .ofFields [("moment", .ofString spelling)]
  | .list items => .list (itemsToJson items)
  | .table value => tableToJson value
  | .tables earlier last => .list (tablesToJson earlier ++ [tableToJson last])

def itemsToJson : List TomlValue → List JsonValue
  | [] => []
  | item :: rest => toJson item :: itemsToJson rest

def tableToJson : TomlTable → JsonValue
  | .mk _ entries => .object (entriesToJson entries)

def entriesToJson : List (String × TomlValue) → List JsonMember
  | [] => []
  | (key, value) :: rest => (.ofString key, toJson value) :: entriesToJson rest

def tablesToJson : List TomlTable → List JsonValue
  | [] => []
  | first :: rest => tableToJson first :: tablesToJson rest

end

end TomlValue

/-- The setup that a table gives; what it leaves out has its default. -/
def ClientConfig.ofToml? (table : TomlTable) : Option ClientConfig :=
  ofJson? (TomlValue.tableToJson table)

end SegmentOffload
