import SegmentOffload.Proofs.Wire.Fields
import SegmentOffload.Wire.Decoding

/-!
What the readers of bodies accept.

The body of every message but an announcement is accepted exactly when it is the written body of a
message whose texts are free of the character zero, and that message is the result, apart from what
its flags say.  An announcement is accepted when its body is a path and any settings that name what
is asked for; what it says of them is a matter of the settings alone.
-/

namespace SegmentOffload.Wire

/-! ### Texts of messages -/

/-- Settings whose keys and values are free of the character zero. -/
def Settings.IsNulFree (settings : Settings) : Prop :=
  ∀ setting ∈ settings, NulFree setting.1 ∧ NulFree setting.2

/-- A message whose texts can each be closed by a zero byte. -/
def Message.IsNulFree : Message → Prop
  | .cat request => NulFree request.remotePath ∧ request.settings.IsNulFree
  | .put request =>
    NulFree request.remotePath ∧ NulFree request.storageClass ∧ NulFree request.tableSpace
  | .delete request => NulFree request.remotePath
  | .list start => NulFree start
  | .objectMeta entries => ∀ entry ∈ entries, NulFree entry.path
  | .copyData _ => True
  | .commandComplete => True
  | .readyForQuery => True

/-- A message that says with its flags what the given ones say. -/
def Message.withFlags (flags : Flags) : Message → Message
  | .cat request =>
    .cat { request with decrypt := flags.isFirst, extended := flags.isSecond }
  | .put request => .put { request with encrypt := flags.isFirst }
  | .delete request =>
    .delete { request with confirm := flags.isFirst, garbage := flags.isSecond }
  | message => message

theorem Message.withFlags_flags (message : Message) : message.withFlags message.flags = message := by
  cases message <;> simp [withFlags, flags]

/-! ### Settings -/

def settingField (setting : String × String) : Bytes :=
  textField setting.1 ++ textField setting.2

theorem Settings.bytes_eq (settings : Settings) :
    settings.bytes =
      wordBytes (UInt64.ofNat settings.length) ++ settings.flatMap settingField := rfl

theorem takeSettingPairs_run_eq_ok_iff {count : Nat} {settings : Settings} {bytes rest : Bytes} :
    (takeSettingPairs count).run bytes = (.ok settings, rest) ↔
      settings.length = count ∧ settings.IsNulFree ∧
        bytes = settings.flatMap settingField ++ rest := by
  induction count generalizing settings bytes rest with
  | zero =>
    rw [takeSettingPairs, Decoder.run_pure_eq_ok_iff]
    constructor
    · intro given
      rcases given with ⟨none, same⟩
      rw [none, same]
      refine ⟨rfl, ?_, rfl⟩
      intro setting impossible
      cases impossible
    · intro given
      rcases given with ⟨none, _, same⟩
      rw [List.length_eq_zero_iff] at none
      rw [none] at same
      exact ⟨none, same.symm⟩
  | succ count ih =>
    constructor
    · intro taken
      obtain ⟨key, afterKey, readKey, taken⟩ := Decoder.run_bind_eq_ok_iff.mp taken
      obtain ⟨value, afterValue, readValue, taken⟩ := Decoder.run_bind_eq_ok_iff.mp taken
      obtain ⟨more, last, readMore, taken⟩ := Decoder.run_bind_eq_ok_iff.mp taken
      obtain ⟨sameSettings, sameRest⟩ := Decoder.run_pure_eq_ok_iff.mp taken
      obtain ⟨keyFree, keyBytes⟩ := takeText_run_eq_ok_iff.mp readKey
      obtain ⟨valueFree, valueBytes⟩ := takeText_run_eq_ok_iff.mp readValue
      obtain ⟨moreLength, moreFree, moreBytes⟩ := ih.mp readMore
      rw [sameSettings, sameRest]
      refine ⟨?_, ?_, ?_⟩
      · rw [List.length_cons, moreLength]
      · intro setting member
        rcases List.mem_cons.mp member with first | later
        · rw [first]
          exact ⟨keyFree, valueFree⟩
        · exact moreFree setting later
      · rw [keyBytes, valueBytes, moreBytes, List.flatMap_cons, settingField]
        simp only [List.append_assoc]
    · intro given
      rcases given with ⟨counted, free, written⟩
      cases settings with
      | nil => cases counted
      | cons first more =>
        have firstFree := free first List.mem_cons_self
        have moreFree : Settings.IsNulFree more := by
          intro setting member
          exact free setting (List.mem_cons_of_mem _ member)
        have moreLength : more.length = count := Nat.succ.inj counted
        rw [List.flatMap_cons, settingField, List.append_assoc, List.append_assoc] at written
        refine Decoder.run_bind_eq_ok_iff.mpr
          ⟨first.1, _, takeText_run_eq_ok_iff.mpr ⟨firstFree.1, written⟩, ?_⟩
        refine Decoder.run_bind_eq_ok_iff.mpr
          ⟨first.2, _, takeText_run_eq_ok_iff.mpr ⟨firstFree.2, rfl⟩, ?_⟩
        exact Decoder.run_bind_eq_ok_iff.mpr
          ⟨more, rest, ih.mpr ⟨moreLength, moreFree, rfl⟩, rfl⟩

theorem two_mul_length_le_length_flatMap_settingField (settings : Settings) :
    2 * settings.length ≤ (settings.flatMap settingField).length := by
  induction settings with
  | nil => exact Nat.le_refl _
  | cons first more ih =>
    rw [List.flatMap_cons, List.length_append, settingField, List.length_append, length_textField,
      length_textField, List.length_cons]
    omega

theorem Settings.length_le_length_bytes (settings : Settings) :
    settings.length ≤ settings.bytes.length := by
  have room := two_mul_length_le_length_flatMap_settingField settings
  rw [bytes_eq, List.length_append]
  omega

/-- Settings are read exactly from their count and their texts. -/
theorem takeSettings_run_eq_ok_iff {settings : Settings} {bytes rest : Bytes} :
    takeSettings.run bytes = (.ok settings, rest) ↔
      settings.length < UInt64.size ∧ settings.IsNulFree ∧ bytes = settings.bytes ++ rest := by
  constructor
  · intro taken
    obtain ⟨count, afterCount, readCount, taken⟩ := Decoder.run_bind_eq_ok_iff.mp taken
    obtain ⟨left, same, looked, taken⟩ := Decoder.run_bind_eq_ok_iff.mp taken
    rw [Decoder.run_remaining] at looked
    cases looked
    split at taken
    · rw [Decoder.run_refuse] at taken
      cases taken
    · have countBytes := takeWord_run_eq_ok_iff.mp readCount
      obtain ⟨counted, free, pairBytes⟩ := takeSettingPairs_run_eq_ok_iff.mp taken
      have sameCount : UInt64.ofNat settings.length = count := by
        rw [counted, UInt64.ofNat_toNat]
      refine ⟨?_, free, ?_⟩
      · rw [counted]
        exact count.toNat_lt_size
      · rw [countBytes, pairBytes, Settings.bytes_eq, sameCount, List.append_assoc]
  · intro given
    rcases given with ⟨counted, free, written⟩
    rw [Settings.bytes_eq, List.append_assoc] at written
    have exact : (UInt64.ofNat settings.length).toNat = settings.length :=
      UInt64.toNat_ofNat_of_lt' counted
    refine Decoder.run_bind_eq_ok_iff.mpr ⟨_, _, takeWord_run_eq_ok_iff.mpr written, ?_⟩
    refine Decoder.run_bind_eq_ok_iff.mpr ⟨_, _, Decoder.run_remaining _, ?_⟩
    have room := two_mul_length_le_length_flatMap_settingField settings
    have fits : ¬(settings.flatMap settingField ++ rest).length / 2 <
        (UInt64.ofNat settings.length).toNat := by
      rw [exact, List.length_append]
      omega
    rw [if_neg fits, exact]
    exact takeSettingPairs_run_eq_ok_iff.mpr ⟨rfl, free, rfl⟩

/-! ### Entries of a listing -/

theorem takeEntry_run_eq_ok_iff {entry : ObjectMeta} {bytes rest : Bytes} :
    takeEntry.run bytes = (.ok entry, rest) ↔ NulFree entry.path ∧ bytes = entry.bytes ++ rest := by
  constructor
  · intro taken
    obtain ⟨path, afterPath, readPath, taken⟩ := Decoder.run_bind_eq_ok_iff.mp taken
    obtain ⟨size, last, readSize, taken⟩ := Decoder.run_bind_eq_ok_iff.mp taken
    obtain ⟨sameEntry, sameRest⟩ := Decoder.run_pure_eq_ok_iff.mp taken
    obtain ⟨free, pathBytes⟩ := takeText_run_eq_ok_iff.mp readPath
    have sizeBytes := takeWord_run_eq_ok_iff.mp readSize
    rw [sameEntry, sameRest]
    refine ⟨free, ?_⟩
    rw [pathBytes, sizeBytes, ObjectMeta.bytes, List.append_assoc]
  · intro given
    rcases given with ⟨free, written⟩
    rw [ObjectMeta.bytes, List.append_assoc] at written
    refine Decoder.run_bind_eq_ok_iff.mpr
      ⟨entry.path, _, takeText_run_eq_ok_iff.mpr ⟨free, written⟩, ?_⟩
    exact Decoder.run_bind_eq_ok_iff.mpr
      ⟨entry.size, rest, takeWord_run_eq_ok_iff.mpr rfl, rfl⟩

theorem ObjectMeta.bytes_ne_nil (entry : ObjectMeta) (rest : Bytes) : entry.bytes ++ rest ≠ [] := by
  intro empty
  have length := congrArg List.length empty
  rw [List.length_append, ObjectMeta.bytes, List.length_append, length_textField,
    List.length_nil] at length
  omega

theorem takeEntries_eq_ok_iff {entries : List ObjectMeta} {bytes : Bytes} :
    takeEntries bytes = .ok entries ↔
      (∀ entry ∈ entries, NulFree entry.path) ∧ bytes = entries.flatMap ObjectMeta.bytes := by
  constructor
  · intro taken
    fun_induction takeEntries bytes generalizing entries with
    | case1 bytes empty =>
      cases taken
      refine ⟨?_, List.isEmpty_iff.mp empty⟩
      intro entry impossible
      cases impossible
    | case2 bytes nonempty entry rest read shorter ih =>
      obtain ⟨free, written⟩ := takeEntry_run_eq_ok_iff.mp read
      cases more : takeEntries rest with
      | error malformed =>
        rw [more] at taken
        cases taken
      | ok later =>
        rw [more] at taken
        cases taken
        obtain ⟨laterFree, laterBytes⟩ := ih more
        constructor
        · intro other member
          rcases List.mem_cons.mp member with first | inside
          · rw [first]
            exact free
          · exact laterFree other inside
        · rw [written, laterBytes, List.flatMap_cons]
    | case3 bytes nonempty malformed rest read =>
      cases taken
  · intro given
    rcases given with ⟨free, written⟩
    induction entries generalizing bytes with
    | nil =>
      rw [written, takeEntries]
      rfl
    | cons entry later ih =>
      rw [List.flatMap_cons] at written
      have nonempty : ¬bytes.isEmpty = true := by
        rw [List.isEmpty_iff, written]
        exact entry.bytes_ne_nil _
      have read := takeEntry_run_eq_ok_iff.mpr ⟨free entry List.mem_cons_self, written⟩
      have more := ih (fun other member => free other (List.mem_cons_of_mem _ member)) rfl
      rw [takeEntries, if_neg nonempty]
      split
      · rename_i again
        rw [read] at again
        cases again
        rw [more]
        rfl
      · rename_i again
        rw [read] at again
        cases again

/-! ### Whole bodies -/

/-- Where a reader of bodies ends up does not matter. -/
def Decoder.Accepts {α : Type} (decoder : Decoder α) (bytes : Bytes) (value : α) : Prop :=
  (decoder.run bytes).1 = .ok value

theorem Decoder.accepts_iff_exists_rest {α : Type} {decoder : Decoder α} {bytes : Bytes}
    {value : α} : decoder.Accepts bytes value ↔ ∃ rest, decoder.run bytes = (.ok value, rest) := by
  constructor
  · intro accepted
    exact ⟨(decoder.run bytes).2, Prod.ext accepted rfl⟩
  · intro given
    rcases given with ⟨rest, same⟩
    rw [Accepts, same]

theorem takeCat_accepts_iff {flags : Flags} {bytes : Bytes} {message : Message}
    (small : bytes.length < UInt64.size) :
    (takeCat flags).Accepts bytes message ↔
      ∃ request, message = .cat request ∧ message.IsNulFree ∧ message.withFlags flags = message ∧
        bytes = message.body := by
  rw [Decoder.accepts_iff_exists_rest]
  constructor
  · intro given
    rcases given with ⟨rest, taken⟩
    obtain ⟨path, afterPath, readPath, taken⟩ := Decoder.run_bind_eq_ok_iff.mp taken
    obtain ⟨offset, afterOffset, readOffset, taken⟩ := Decoder.run_bind_eq_ok_iff.mp taken
    obtain ⟨settings, afterSettings, readSettings, taken⟩ := Decoder.run_bind_eq_ok_iff.mp taken
    obtain ⟨nothing, last, ended, taken⟩ := Decoder.run_bind_eq_ok_iff.mp taken
    obtain ⟨sameMessage, _⟩ := Decoder.run_pure_eq_ok_iff.mp taken
    obtain ⟨pathFree, pathBytes⟩ := takeText_run_eq_ok_iff.mp readPath
    have offsetBytes := takeWord_run_eq_ok_iff.mp readOffset
    obtain ⟨_, settingsFree, settingsBytes⟩ := takeSettings_run_eq_ok_iff.mp readSettings
    obtain ⟨nothingLeft, _⟩ := expectEnd_run_eq_ok_iff.mp ended
    rw [sameMessage]
    refine ⟨_, rfl, ⟨pathFree, settingsFree⟩, rfl, ?_⟩
    rw [pathBytes, offsetBytes, settingsBytes, nothingLeft, Message.body, List.append_nil,
      List.append_assoc]
  · intro given
    rcases given with ⟨request, rfl, ⟨pathFree, settingsFree⟩, flagged, written⟩
    have counted : request.settings.length < UInt64.size := by
      have room := request.settings.length_le_length_bytes
      rw [written, Message.body, List.length_append] at small
      omega
    rw [Message.body, List.append_assoc] at written
    rw [← flagged]
    refine ⟨[], Decoder.run_bind_eq_ok_iff.mpr
      ⟨request.remotePath, _, takeText_run_eq_ok_iff.mpr ⟨pathFree, written⟩, ?_⟩⟩
    refine Decoder.run_bind_eq_ok_iff.mpr
      ⟨request.startOffset, _, takeWord_run_eq_ok_iff.mpr rfl, ?_⟩
    refine Decoder.run_bind_eq_ok_iff.mpr ⟨request.settings, [], ?_, ?_⟩
    · rw [takeSettings_run_eq_ok_iff, List.append_nil]
      exact ⟨counted, settingsFree, rfl⟩
    · exact Decoder.run_bind_eq_ok_iff.mpr
        ⟨(), [], expectEnd_run_eq_ok_iff.mpr ⟨rfl, rfl⟩, rfl⟩

theorem takeDelete_accepts_iff {flags : Flags} {bytes : Bytes} {message : Message} :
    (takeDelete flags).Accepts bytes message ↔
      ∃ request, message = .delete request ∧ message.IsNulFree ∧
        message.withFlags flags = message ∧ bytes = message.body := by
  rw [Decoder.accepts_iff_exists_rest]
  constructor
  · intro given
    rcases given with ⟨rest, taken⟩
    obtain ⟨path, afterPath, readPath, taken⟩ := Decoder.run_bind_eq_ok_iff.mp taken
    obtain ⟨port, afterPort, readPort, taken⟩ := Decoder.run_bind_eq_ok_iff.mp taken
    obtain ⟨index, afterIndex, readIndex, taken⟩ := Decoder.run_bind_eq_ok_iff.mp taken
    obtain ⟨nothing, last, ended, taken⟩ := Decoder.run_bind_eq_ok_iff.mp taken
    obtain ⟨sameMessage, _⟩ := Decoder.run_pure_eq_ok_iff.mp taken
    obtain ⟨pathFree, pathBytes⟩ := takeText_run_eq_ok_iff.mp readPath
    have portBytes := takeWord_run_eq_ok_iff.mp readPort
    have indexBytes := takeWord_run_eq_ok_iff.mp readIndex
    obtain ⟨nothingLeft, _⟩ := expectEnd_run_eq_ok_iff.mp ended
    rw [sameMessage]
    refine ⟨_, rfl, pathFree, rfl, ?_⟩
    rw [pathBytes, portBytes, indexBytes, nothingLeft, Message.body, List.append_nil,
      List.append_assoc]
  · intro given
    rcases given with ⟨request, rfl, pathFree, flagged, written⟩
    rw [Message.body, List.append_assoc] at written
    rw [← flagged]
    refine ⟨[], Decoder.run_bind_eq_ok_iff.mpr
      ⟨request.remotePath, _, takeText_run_eq_ok_iff.mpr ⟨pathFree, written⟩, ?_⟩⟩
    refine Decoder.run_bind_eq_ok_iff.mpr
      ⟨request.port, _, takeWord_run_eq_ok_iff.mpr rfl, ?_⟩
    refine Decoder.run_bind_eq_ok_iff.mpr ⟨request.segmentIndex, [], ?_, ?_⟩
    · rw [takeWord_run_eq_ok_iff, List.append_nil]
    · exact Decoder.run_bind_eq_ok_iff.mpr
        ⟨(), [], expectEnd_run_eq_ok_iff.mpr ⟨rfl, rfl⟩, rfl⟩

theorem takeList_accepts_iff {bytes : Bytes} {message : Message} :
    takeList.Accepts bytes message ↔
      ∃ start, message = .list start ∧ message.IsNulFree ∧ bytes = message.body := by
  rw [Decoder.accepts_iff_exists_rest]
  constructor
  · intro given
    rcases given with ⟨rest, taken⟩
    obtain ⟨start, afterStart, readStart, taken⟩ := Decoder.run_bind_eq_ok_iff.mp taken
    obtain ⟨nothing, last, ended, taken⟩ := Decoder.run_bind_eq_ok_iff.mp taken
    obtain ⟨sameMessage, _⟩ := Decoder.run_pure_eq_ok_iff.mp taken
    obtain ⟨free, startBytes⟩ := takeText_run_eq_ok_iff.mp readStart
    obtain ⟨nothingLeft, _⟩ := expectEnd_run_eq_ok_iff.mp ended
    rw [sameMessage]
    refine ⟨start, rfl, free, ?_⟩
    rw [startBytes, nothingLeft, Message.body, List.append_nil]
  · intro given
    rcases given with ⟨start, rfl, free, written⟩
    refine ⟨[], Decoder.run_bind_eq_ok_iff.mpr ⟨start, [], ?_, ?_⟩⟩
    · rw [takeText_run_eq_ok_iff, List.append_nil]
      exact ⟨free, written⟩
    · exact Decoder.run_bind_eq_ok_iff.mpr
        ⟨(), [], expectEnd_run_eq_ok_iff.mpr ⟨rfl, rfl⟩, rfl⟩

theorem takeCopyData_accepts_iff {bytes : Bytes} {message : Message}
    (small : bytes.length < UInt64.size) :
    takeCopyData.Accepts bytes message ↔
      ∃ data, message = .copyData data ∧ bytes = message.body := by
  rw [Decoder.accepts_iff_exists_rest]
  constructor
  · intro given
    rcases given with ⟨rest, taken⟩
    obtain ⟨declared, data, readLength, taken⟩ := Decoder.run_bind_eq_ok_iff.mp taken
    obtain ⟨left, same, looked, taken⟩ := Decoder.run_bind_eq_ok_iff.mp taken
    rw [Decoder.run_remaining] at looked
    cases looked
    split at taken
    · rename_i agreed
      obtain ⟨sameMessage, _⟩ := Decoder.run_pure_eq_ok_iff.mp taken
      have lengthBytes := takeWord_run_eq_ok_iff.mp readLength
      refine ⟨data, sameMessage, ?_⟩
      rw [sameMessage, Message.body, lengthBytes, ← agreed, UInt64.ofNat_toNat]
    · rw [Decoder.run_refuse] at taken
      cases taken
  · intro given
    rcases given with ⟨data, rfl, written⟩
    have counted : data.length < UInt64.size := by
      rw [written, Message.body, List.length_append] at small
      omega
    have exact : (UInt64.ofNat data.length).toNat = data.length :=
      UInt64.toNat_ofNat_of_lt' counted
    refine ⟨data, Decoder.run_bind_eq_ok_iff.mpr
      ⟨_, data, takeWord_run_eq_ok_iff.mpr written, ?_⟩⟩
    refine Decoder.run_bind_eq_ok_iff.mpr ⟨_, _, Decoder.run_remaining _, ?_⟩
    rw [if_pos exact]
    rfl

theorem takeObjectMeta_accepts_iff {bytes : Bytes} {message : Message} :
    takeObjectMeta.Accepts bytes message ↔
      ∃ entries, message = .objectMeta entries ∧ message.IsNulFree ∧ bytes = message.body := by
  rw [Decoder.accepts_iff_exists_rest]
  constructor
  · intro given
    rcases given with ⟨rest, taken⟩
    obtain ⟨left, same, looked, taken⟩ := Decoder.run_bind_eq_ok_iff.mp taken
    rw [Decoder.run_remaining] at looked
    cases looked
    obtain ⟨entries, last, read, taken⟩ := Decoder.run_bind_eq_ok_iff.mp taken
    obtain ⟨sameMessage, _⟩ := Decoder.run_pure_eq_ok_iff.mp taken
    obtain ⟨complete, _⟩ := Decoder.run_ofExcept_eq_ok_iff.mp read
    obtain ⟨free, written⟩ := takeEntries_eq_ok_iff.mp complete
    rw [sameMessage]
    exact ⟨entries, rfl, free, written⟩
  · intro given
    rcases given with ⟨entries, rfl, free, written⟩
    refine ⟨bytes, Decoder.run_bind_eq_ok_iff.mpr ⟨_, _, Decoder.run_remaining _, ?_⟩⟩
    refine Decoder.run_bind_eq_ok_iff.mpr ⟨entries, bytes, ?_, rfl⟩
    exact Decoder.run_ofExcept_eq_ok_iff.mpr
      ⟨takeEntries_eq_ok_iff.mpr ⟨free, written⟩, rfl⟩

theorem expectEnd_then_accepts_iff {what : String} {bytes : Bytes} {message result : Message} :
    Decoder.Accepts (do expectEnd what; return message) bytes result ↔
      result = message ∧ bytes = [] := by
  rw [Decoder.accepts_iff_exists_rest]
  constructor
  · intro given
    rcases given with ⟨rest, taken⟩
    obtain ⟨nothing, last, ended, taken⟩ := Decoder.run_bind_eq_ok_iff.mp taken
    obtain ⟨sameMessage, _⟩ := Decoder.run_pure_eq_ok_iff.mp taken
    exact ⟨sameMessage, (expectEnd_run_eq_ok_iff.mp ended).1⟩
  · intro given
    rcases given with ⟨rfl, empty⟩
    exact ⟨[], Decoder.run_bind_eq_ok_iff.mpr
      ⟨(), [], expectEnd_run_eq_ok_iff.mpr ⟨empty, rfl⟩, rfl⟩⟩

/-- The body of anything but an announcement is accepted exactly as the written body of the message
that comes out of it. -/
theorem takeBody_accepts_iff {flags : Flags} {tag : Tag} {bytes : Bytes} {message : Message}
    (notPut : tag ≠ .put) (small : bytes.length < UInt64.size) :
    (takeBody flags tag).Accepts bytes message ↔
      message.tag = tag ∧ message.IsNulFree ∧ message.withFlags flags = message ∧
        bytes = message.body := by
  cases tag with
  | put => exact absurd rfl notPut
  | cat =>
    rw [takeBody, takeCat_accepts_iff small]
    constructor
    · intro given
      rcases given with ⟨request, rfl, free, flagged, written⟩
      exact ⟨rfl, free, flagged, written⟩
    · intro given
      rcases given with ⟨tagged, free, flagged, written⟩
      cases message <;> cases tagged
      exact ⟨_, rfl, free, flagged, written⟩
  | delete =>
    rw [takeBody, takeDelete_accepts_iff]
    constructor
    · intro given
      rcases given with ⟨request, rfl, free, flagged, written⟩
      exact ⟨rfl, free, flagged, written⟩
    · intro given
      rcases given with ⟨tagged, free, flagged, written⟩
      cases message <;> cases tagged
      exact ⟨_, rfl, free, flagged, written⟩
  | list =>
    rw [takeBody, takeList_accepts_iff]
    constructor
    · intro given
      rcases given with ⟨start, rfl, free, written⟩
      exact ⟨rfl, free, rfl, written⟩
    · intro given
      rcases given with ⟨tagged, free, _, written⟩
      cases message <;> cases tagged
      exact ⟨_, rfl, free, written⟩
  | copyData =>
    rw [takeBody, takeCopyData_accepts_iff small]
    constructor
    · intro given
      rcases given with ⟨data, rfl, written⟩
      exact ⟨rfl, trivial, rfl, written⟩
    · intro given
      rcases given with ⟨tagged, _, _, written⟩
      cases message <;> cases tagged
      exact ⟨_, rfl, written⟩
  | objectMeta =>
    rw [takeBody, takeObjectMeta_accepts_iff]
    constructor
    · intro given
      rcases given with ⟨entries, rfl, free, written⟩
      exact ⟨rfl, free, rfl, written⟩
    · intro given
      rcases given with ⟨tagged, free, _, written⟩
      cases message <;> cases tagged
      exact ⟨_, rfl, free, written⟩
  | commandComplete =>
    rw [takeBody, expectEnd_then_accepts_iff]
    constructor
    · intro given
      rcases given with ⟨rfl, empty⟩
      exact ⟨rfl, trivial, rfl, empty⟩
    · intro given
      rcases given with ⟨tagged, _, _, written⟩
      cases message <;> cases tagged
      exact ⟨rfl, written⟩
  | readyForQuery =>
    rw [takeBody, expectEnd_then_accepts_iff]
    constructor
    · intro given
      rcases given with ⟨rfl, empty⟩
      exact ⟨rfl, trivial, rfl, empty⟩
    · intro given
      rcases given with ⟨tagged, _, _, written⟩
      cases message <;> cases tagged
      exact ⟨rfl, written⟩

/-- The body of an announcement is accepted exactly as a path and settings that make one. -/
theorem takePut_accepts_iff {flags : Flags} {bytes : Bytes} {message : Message}
    (small : bytes.length < UInt64.size) :
    (takePut flags).Accepts bytes message ↔
      ∃ path settings request, NulFree path ∧ Settings.IsNulFree settings ∧
        bytes = textField path ++ settings.bytes ∧
        PutRequest.ofSettings path flags.isFirst settings = .ok request ∧
        message = .put request := by
  rw [Decoder.accepts_iff_exists_rest]
  constructor
  · intro given
    rcases given with ⟨rest, taken⟩
    obtain ⟨path, afterPath, readPath, taken⟩ := Decoder.run_bind_eq_ok_iff.mp taken
    obtain ⟨settings, afterSettings, readSettings, taken⟩ := Decoder.run_bind_eq_ok_iff.mp taken
    obtain ⟨nothing, last, ended, taken⟩ := Decoder.run_bind_eq_ok_iff.mp taken
    obtain ⟨request, final, judged, taken⟩ := Decoder.run_bind_eq_ok_iff.mp taken
    obtain ⟨sameMessage, _⟩ := Decoder.run_pure_eq_ok_iff.mp taken
    obtain ⟨pathFree, pathBytes⟩ := takeText_run_eq_ok_iff.mp readPath
    obtain ⟨_, settingsFree, settingsBytes⟩ := takeSettings_run_eq_ok_iff.mp readSettings
    obtain ⟨nothingLeft, _⟩ := expectEnd_run_eq_ok_iff.mp ended
    obtain ⟨made, _⟩ := Decoder.run_ofExcept_eq_ok_iff.mp judged
    refine ⟨path, settings, request, pathFree, settingsFree, ?_, made, sameMessage⟩
    rw [pathBytes, settingsBytes, nothingLeft, List.append_nil]
  · intro given
    rcases given with ⟨path, settings, request, pathFree, settingsFree, written, made, rfl⟩
    have counted : settings.length < UInt64.size := by
      have room := Settings.length_le_length_bytes settings
      rw [written, List.length_append] at small
      omega
    refine ⟨[], Decoder.run_bind_eq_ok_iff.mpr
      ⟨path, _, takeText_run_eq_ok_iff.mpr ⟨pathFree, written⟩, ?_⟩⟩
    refine Decoder.run_bind_eq_ok_iff.mpr ⟨settings, [], ?_, ?_⟩
    · rw [takeSettings_run_eq_ok_iff, List.append_nil]
      exact ⟨counted, settingsFree, rfl⟩
    refine Decoder.run_bind_eq_ok_iff.mpr ⟨(), [], expectEnd_run_eq_ok_iff.mpr ⟨rfl, rfl⟩, ?_⟩
    exact Decoder.run_bind_eq_ok_iff.mpr
      ⟨request, [], Decoder.run_ofExcept_eq_ok_iff.mpr ⟨made, rfl⟩, rfl⟩

end SegmentOffload.Wire
