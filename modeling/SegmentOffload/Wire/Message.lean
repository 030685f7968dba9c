import SegmentOffload.Decimal
import SegmentOffload.Wire.Header

/-!
The messages of the proxy protocol, and how they are written.

`Cat` asks for the bytes of an object, `Put` announces one and `CopyData` carries a piece of it,
`Delete` and `List` name objects, `ObjectMeta` answers a listing, `CommandComplete` ends what the
client has to say and `ReadyForQuery` acknowledges it.  A message is written as one frame.  The length
in front of it is counted field by field before anything is written; nothing else is checked or
compared on writing.
-/

namespace SegmentOffload.Wire

/-! ### Settings -/

/-- Named values sent along with a request, in order. -/
abbrev Settings := List (String × String)

namespace Settings

def tableSpace : String := "TableSpace"
def storageClass : String := "StorageClass"
def multipartChunkSize : String := "MultipartChunksize"
def multipartUpload : String := "MultipartUpload"

/-- The count of the settings, then each key and value. -/
def bytes (settings : Settings) : Bytes :=
  wordBytes (UInt64.ofNat settings.length) ++
    settings.flatMap fun setting => textField setting.1 ++ textField setting.2

def size (settings : Settings) : Nat :=
  8 + sizeOfAll (fun setting => textSize setting.1 + textSize setting.2) settings

def value? (settings : Settings) (key : String) : Option String :=
  (settings.find? fun setting => setting.1 == key).map Prod.snd

end Settings

/-! ### Requests and answers -/

structure CatRequest where
  remotePath : String
  decrypt : Bool
  /-- Set when the request resumes inside the object. -/
  extended : Bool
  startOffset : UInt64
  settings : Settings
deriving DecidableEq, Repr

structure PutRequest where
  remotePath : String
  encrypt : Bool
  storageClass : String
  multipartChunkSize : UInt64
  multipartUpload : Bool
  tableSpace : String
deriving DecidableEq, Repr

/-- A request to remove one object, or the garbage below a path. -/
structure DeleteRequest where
  remotePath : String
  confirm : Bool
  garbage : Bool
  port : UInt64
  segmentIndex : UInt64
deriving DecidableEq, Repr

structure ObjectMeta where
  path : String
  size : UInt64
deriving DecidableEq, Repr

inductive Message where
  | cat (request : CatRequest)
  | put (request : PutRequest)
  | copyData (data : Bytes)
  | commandComplete
  | readyForQuery
  | delete (request : DeleteRequest)
  | list (start : String)
  | objectMeta (entries : List ObjectMeta)
deriving DecidableEq, Repr

/-- The request for an object from an offset on, within a table space. -/
def CatRequest.resuming (remotePath : String) (decrypt : Bool) (startOffset : UInt64)
    (tableSpace : String) : CatRequest :=
  { remotePath
    decrypt
    extended := startOffset != 0
    startOffset
    settings := [(Settings.tableSpace, tableSpace)] }

def PutRequest.settings (request : PutRequest) : Settings :=
  [(Settings.storageClass, request.storageClass),
    (Settings.multipartChunkSize, decimal request.multipartChunkSize.toNat),
    (Settings.multipartUpload, if request.multipartUpload then "1" else "0"),
    (Settings.tableSpace, request.tableSpace)]

def ObjectMeta.bytes (entry : ObjectMeta) : Bytes :=
  textField entry.path ++ wordBytes entry.size

def ObjectMeta.byteSize (entry : ObjectMeta) : Nat :=
  textSize entry.path + 8

namespace Message

def tag : Message → Tag
  | cat _ => .cat
  | put _ => .put
  | copyData _ => .copyData
  | commandComplete => .commandComplete
  | readyForQuery => .readyForQuery
  | delete _ => .delete
  | list _ => .list
  | objectMeta _ => .objectMeta

def flags : Message → Flags
  | cat request => .ofPair request.decrypt request.extended
  | put request => .ofPair request.encrypt false
  | delete request => .ofPair request.confirm request.garbage
  | _ => .none

def body : Message → Bytes
  | cat request =>
    textField request.remotePath ++ wordBytes request.startOffset ++ request.settings.bytes
  | put request => textField request.remotePath ++ request.settings.bytes
  | copyData data => wordBytes (UInt64.ofNat data.length) ++ data
  | commandComplete => []
  | readyForQuery => []
  | delete request =>
    textField request.remotePath ++ wordBytes request.port ++ wordBytes request.segmentIndex
  | list start => textField start
  | objectMeta entries => entries.flatMap ObjectMeta.bytes

/-- How many bytes the body will be. -/
def bodySize : Message → Nat
  | cat request => textSize request.remotePath + 8 + request.settings.size
  | put request => textSize request.remotePath + request.settings.size
  | copyData data => 8 + data.length
  | commandComplete => 0
  | readyForQuery => 0
  | delete request => textSize request.remotePath + 8 + 8
  | list start => textSize start
  | objectMeta entries => sizeOfAll ObjectMeta.byteSize entries

def encode (message : Message) : Bytes :=
  (Header.forBody message.tag message.flags message.bodySize).bytes ++ message.body

end Message

end SegmentOffload.Wire
