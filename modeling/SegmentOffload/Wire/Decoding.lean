import SegmentOffload.Wire.Message

/-!
Reading messages back.

Every reader consumes a whole body or refuses it: nothing may be left over, counts and inner lengths
have to agree with what is there, and texts have to be closed and well-formed.  Only the settings of
a `Put` are free in order and may hold more than is asked for; of a repeated key the first value
counts.
-/

namespace SegmentOffload.Wire

/-! ### Repeated fields -/

def takeSettingPairs : Nat → Decoder Settings
  | 0 => return []
  | count + 1 => do
    let key ← takeText "setting key"
    let value ← takeText "setting value"
    let rest ← takeSettingPairs count
    return (key, value) :: rest

/-- Read counted settings.  A pair takes at least two bytes, so a count that the bytes left cannot
hold is refused before anything is read. -/
def takeSettings : Decoder Settings := do
  let count ← takeWord "settings count"
  let left ← Decoder.remaining
  if left.length / 2 < count.toNat then
    Decoder.refuse (.tooManySettings count left.length)
  else
    takeSettingPairs count.toNat

def takeEntry : Decoder ObjectMeta := do
  let path ← takeText "ObjectMeta path"
  let size ← takeWord "ObjectMeta size"
  return { path, size }

theorem takeEntry_length_lt {bytes rest : Bytes} {entry : ObjectMeta}
    (taken : takeEntry.run bytes = (.ok entry, rest)) : rest.length < bytes.length := by
  obtain ⟨path, middle, readPath, taken⟩ := Decoder.run_bind_eq_ok_iff.mp taken
  obtain ⟨size, last, readSize, taken⟩ := Decoder.run_bind_eq_ok_iff.mp taken
  have pathLength := takeText_length_lt readPath
  have sizeLength := takeWord_length_eq readSize
  cases taken
  omega

def takeEntries (bytes : Bytes) : Except Malformed (List ObjectMeta) :=
  if bytes.isEmpty then .ok []
  else
    match taken : takeEntry.run bytes with
    | (.ok entry, rest) =>
      have := takeEntry_length_lt taken
      (takeEntries rest).map (entry :: ·)
    | (.error malformed, _) => .error malformed
termination_by bytes.length

/-! ### Bodies -/

def takeCat (flags : Flags) : Decoder Message := do
  let remotePath ← takeText "Cat path"
  let startOffset ← takeWord "Cat offset"
  let settings ← takeSettings
  expectEnd "Cat"
  return .cat
    { remotePath, decrypt := flags.isFirst, extended := flags.isSecond, startOffset, settings }

def requireSetting (settings : Settings) (key : String) : Except Malformed String :=
  match settings.value? key with
  | some value => .ok value
  | none => .error (.missingSetting key)

def readNumber (key text : String) : Except Malformed UInt64 :=
  match parseWord text with
  | .ok number => .ok number
  | .error _ => .error (.badNumber key text)

def readSwitch (key text : String) : Except Malformed Bool :=
  if text = "1" then .ok true
  else if text = "0" then .ok false
  else .error (.badSwitch key text)

/-- The announcement that a path, a flag and settings make. -/
def PutRequest.ofSettings (remotePath : String) (encrypt : Bool) (settings : Settings) :
    Except Malformed PutRequest := do
  let size ← requireSetting settings Settings.multipartChunkSize
  let multipartChunkSize ← readNumber Settings.multipartChunkSize size
  let upload ← requireSetting settings Settings.multipartUpload
  let multipartUpload ← readSwitch Settings.multipartUpload upload
  let storageClass ← requireSetting settings Settings.storageClass
  let tableSpace ← requireSetting settings Settings.tableSpace
  return { remotePath, encrypt, storageClass, multipartChunkSize, multipartUpload, tableSpace }

def takePut (flags : Flags) : Decoder Message := do
  let remotePath ← takeText "Put path"
  let settings ← takeSettings
  expectEnd "Put"
  let request ← Decoder.ofExcept (PutRequest.ofSettings remotePath flags.isFirst settings)
  return .put request

def takeCopyData : Decoder Message := do
  let declared ← takeWord "CopyData length"
  let data ← Decoder.remaining
  if declared.toNat = data.length then
    return .copyData data
  else
    Decoder.refuse (.payloadMismatch declared data.length)

def takeDelete (flags : Flags) : Decoder Message := do
  let remotePath ← takeText "Delete path"
  let port ← takeWord "Delete port"
  let segmentIndex ← takeWord "Delete segment index"
  expectEnd "Delete"
  return .delete
    { remotePath, confirm := flags.isFirst, garbage := flags.isSecond, port, segmentIndex }

def takeList : Decoder Message := do
  let start ← takeText "List prefix"
  expectEnd "List"
  return .list start

def takeObjectMeta : Decoder Message := do
  let entries ← Decoder.ofExcept (takeEntries (← Decoder.remaining))
  return .objectMeta entries

/-- The reader of a body, by the tag and flags in front of it. -/
def takeBody (flags : Flags) : Tag → Decoder Message
  | .cat => takeCat flags
  | .put => takePut flags
  | .copyData => takeCopyData
  | .commandComplete => do
    expectEnd "CommandComplete"
    return .commandComplete
  | .readyForQuery => do
    expectEnd "ReadyForQuery"
    return .readyForQuery
  | .delete => takeDelete flags
  | .list => takeList
  | .objectMeta => takeObjectMeta

def Frame.message (frame : Frame) : Except Malformed Message :=
  ((takeBody frame.header.flags frame.header.tag).run frame.body).1

def Message.decode (bytes : Bytes) : Except Malformed Message := do
  let frame ← Frame.decode bytes
  frame.message

end SegmentOffload.Wire
