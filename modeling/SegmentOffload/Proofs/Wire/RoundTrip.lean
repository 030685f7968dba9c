import SegmentOffload.Proofs.Wire.Announcement

/-!
Messages read back.

The length in front of a message is counted apart from the bytes that follow it, and agrees with
them.  A frame is split off exactly from its own bytes, when their number is the declared one and within
bounds.  A written message is therefore read back as itself exactly when its texts can be closed by
a zero byte and the frame is not too long; whatever is read never has a zero in its texts, so no
other field can make up for one.
-/

namespace SegmentOffload.Wire

/-! ### Frames -/

namespace Frame

def bytes (frame : Frame) : Bytes :=
  frame.header.bytes ++ frame.body

end Frame

theorem Header.length_bytes (header : Header) : header.bytes.length = headerSize := by
  simp [bytes, Flags.bytes, headerSize]

theorem Frame.length_bytes (frame : Frame) :
    frame.bytes.length = headerSize + frame.body.length := by
  rw [bytes, List.length_append, Header.length_bytes]

theorem checkLength_eq_ok_iff {declared accepted : UInt64} :
    checkLength declared = .ok accepted ↔
      accepted = declared ∧ headerSize ≤ declared.toNat ∧ declared.toNat ≤ maximumSize := by
  unfold checkLength
  by_cases short : declared.toNat < headerSize
  · rw [if_pos short]
    constructor
    · intro impossible
      cases impossible
    · intro given
      rcases given with ⟨_, enough, _⟩
      omega
  · by_cases long : maximumSize < declared.toNat
    · rw [if_neg short, if_pos long]
      constructor
      · intro impossible
        cases impossible
      · intro given
        rcases given with ⟨_, _, within⟩
        omega
    · rw [if_neg short, if_neg long]
      constructor
      · intro same
        cases same
        exact ⟨rfl, by omega, by omega⟩
      · intro given
        rcases given with ⟨same, _, _⟩
        rw [same]

theorem Frame.ofRest_eq_ok_iff {declared : UInt64} {rest : Bytes} {frame : Frame} :
    Frame.ofRest declared rest = .ok frame ↔
      frame.header.totalLength = declared ∧
        rest = frame.header.tag.byte :: frame.header.flags.bytes ++ frame.body := by
  constructor
  · intro split
    unfold ofRest at split
    split at split
    · rename_i code first second third body
      split at split
      · rename_i tag known
        cases split
        refine ⟨rfl, ?_⟩
        rw [Tag.byte_of_ofByte? known]
        rfl
      · cases split
    · cases split
  · intro given
    rcases given with ⟨same, written⟩
    rw [written, Flags.bytes]
    simp only [List.cons_append, List.nil_append, ofRest, Tag.ofByte?_byte]
    rw [← same]

/-- A frame is split off exactly from its bytes, all of them and not too many. -/
theorem Frame.decode_eq_ok_iff {bytes : Bytes} {frame : Frame} :
    Frame.decode bytes = .ok frame ↔
      bytes = frame.bytes ∧ frame.header.totalLength.toNat = bytes.length ∧
        bytes.length ≤ maximumSize := by
  constructor
  · intro decoded
    unfold decode at decoded
    split at decoded
    · cases decoded
    · rename_i enough
      cases checked : checkLength (bytesWord (bytes.take 8)) with
      | error malformed =>
        rw [checked] at decoded
        cases decoded
      | ok declared =>
        simp only [checked] at decoded
        split at decoded
        · rename_i agreed
          obtain ⟨same, _, within⟩ := checkLength_eq_ok_iff.mp checked
          obtain ⟨sameLength, rest⟩ := ofRest_eq_ok_iff.mp decoded
          have eight : (bytes.take 8).length = 8 := by
            rw [List.length_take]
            omega
          have front : bytes.take 8 = wordBytes declared := by
            rw [same, wordBytes_bytesWord eight]
          rw [← same] at within
          refine ⟨?_, ?_, ?_⟩
          · rw [Frame.bytes, Header.bytes, sameLength, List.append_assoc, ← rest, ← front,
              List.take_append_drop]
          · rw [sameLength, agreed]
          · omega
        · cases decoded
  · intro given
    rcases given with ⟨written, agreed, within⟩
    have size := frame.length_bytes
    rw [← written] at size
    have shape : bytes = wordBytes frame.header.totalLength ++
        (frame.header.tag.byte :: frame.header.flags.bytes ++ frame.body) := by
      rw [written, Frame.bytes, Header.bytes, List.append_assoc]
    have front : bytesWord (bytes.take 8) = frame.header.totalLength := by
      rw [shape, take_wordBytes_append, bytesWord_wordBytes]
    have back : bytes.drop 8 = frame.header.tag.byte :: frame.header.flags.bytes ++ frame.body := by
      rw [shape, drop_wordBytes_append]
    have checked : checkLength frame.header.totalLength = .ok frame.header.totalLength :=
      checkLength_eq_ok_iff.mpr ⟨rfl, by omega, by omega⟩
    have enough : ¬bytes.length < 8 := by
      rw [headerSize] at size
      omega
    simp only [decode, if_neg enough, front, checked, if_pos agreed]
    exact ofRest_eq_ok_iff.mpr ⟨rfl, back⟩

theorem Message.decode_eq_ok_iff {bytes : Bytes} {message : Message} :
    Message.decode bytes = .ok message ↔
      ∃ frame, Frame.decode bytes = .ok frame ∧ frame.message = .ok message :=
  bind_eq_ok_iff

theorem Frame.length_body_lt {bytes : Bytes} {frame : Frame}
    (decoded : Frame.decode bytes = .ok frame) : frame.body.length < UInt64.size := by
  obtain ⟨written, _, within⟩ := decode_eq_ok_iff.mp decoded
  have size := frame.length_bytes
  have below : maximumSize < UInt64.size := by decide
  rw [← written] at size
  omega

/-! ### Messages -/

def Message.frame (message : Message) : Frame where
  header := ⟨UInt64.ofNat (headerSize + message.body.length), message.tag, message.flags⟩
  body := message.body

theorem Settings.length_bytes (settings : Settings) : settings.bytes.length = settings.size := by
  rw [bytes_eq, List.length_append, length_wordBytes, size]
  congr 1
  apply length_flatMap_eq_sizeOfAll
  intro setting
  rw [settingField, List.length_append, length_textField_eq_textSize, length_textField_eq_textSize]

/-- The bytes of a body are as many as were counted before it was written. -/
theorem Message.length_body (message : Message) : message.body.length = message.bodySize := by
  cases message with
  | cat request =>
    rw [body, bodySize, List.length_append, List.length_append, length_textField_eq_textSize,
      length_wordBytes, Settings.length_bytes]
  | put request =>
    rw [body, bodySize, List.length_append, length_textField_eq_textSize, Settings.length_bytes]
  | copyData data => rw [body, bodySize, List.length_append, length_wordBytes]
  | commandComplete => rfl
  | readyForQuery => rfl
  | delete request =>
    rw [body, bodySize, List.length_append, List.length_append, length_textField_eq_textSize,
      length_wordBytes, length_wordBytes]
  | list start => exact length_textField_eq_textSize start
  | objectMeta entries =>
    apply length_flatMap_eq_sizeOfAll
    intro entry
    rw [ObjectMeta.bytes, List.length_append, length_textField_eq_textSize, length_wordBytes,
      ObjectMeta.byteSize]

theorem Message.encode_eq_frame_bytes (message : Message) :
    message.encode = message.frame.bytes := by
  rw [encode, Header.forBody, ← length_body]
  rfl

theorem Message.length_encode (message : Message) :
    message.encode.length = headerSize + message.body.length :=
  message.frame.length_bytes

theorem Message.totalLength_frame {message : Message}
    (sized : message.encode.length < UInt64.size) :
    message.frame.header.totalLength.toNat = message.encode.length := by
  rw [length_encode] at sized ⊢
  exact UInt64.toNat_ofNat_of_lt' sized

/-- Whatever body is accepted, no text that comes out of it has a zero. -/
theorem Frame.isNulFree_of_message {frame : Frame} {message : Message}
    (small : frame.body.length < UInt64.size) (read : frame.message = .ok message) :
    message.IsNulFree := by
  have accepted : (takeBody frame.header.flags frame.header.tag).Accepts frame.body message := read
  by_cases put : frame.header.tag = .put
  · rw [put, takeBody, takePut_accepts_iff small] at accepted
    obtain ⟨path, settings, request, pathFree, settingsFree, _, made, rfl⟩ := accepted
    obtain ⟨samePath, _, named⟩ := PutRequest.ofSettings_eq_ok_iff.mp made
    have storage := settingsFree _ (Settings.mem_of_value?_eq_some named.storageClass)
    have space := settingsFree _ (Settings.mem_of_value?_eq_some named.tableSpace)
    rw [← samePath] at pathFree
    exact ⟨pathFree, storage.2, space.2⟩
  · rw [takeBody_accepts_iff put small] at accepted
    exact accepted.2.1

/-- A frame as it is written carries its message when the message's texts can be closed. -/
theorem Message.message_frame {message : Message} (free : message.IsNulFree)
    (small : message.body.length < UInt64.size) : message.frame.message = .ok message := by
  change (takeBody message.flags message.tag).Accepts message.body message
  by_cases put : message.tag = .put
  · cases message with
    | put request =>
      obtain ⟨pathFree, storageFree, spaceFree⟩ := free
      have flag : (Message.put request).flags.isFirst = request.encrypt :=
        Flags.isFirst_ofPair request.encrypt false
      rw [tag, takeBody, takePut_accepts_iff small]
      refine ⟨request.remotePath, request.settings, request, pathFree,
        PutRequest.isNulFree_settings storageFree spaceFree, rfl, ?_, rfl⟩
      rw [flag]
      exact request.ofSettings_settings
    | _ => cases put
  · rw [takeBody_accepts_iff put small]
    exact ⟨rfl, free, message.withFlags_flags, rfl⟩

/-- A written message is read back when its texts can be closed and its frame is not too long. -/
theorem Message.decode_encode {message : Message} (free : message.IsNulFree)
    (within : message.encode.length ≤ maximumSize) :
    Message.decode message.encode = .ok message := by
  have below : maximumSize < UInt64.size := by decide
  have sized : message.encode.length < UInt64.size := by omega
  have length := message.length_encode
  rw [decode_eq_ok_iff]
  refine ⟨message.frame, ?_, message.message_frame free (by omega)⟩
  rw [Frame.decode_eq_ok_iff]
  exact ⟨message.encode_eq_frame_bytes, totalLength_frame sized, within⟩

theorem Message.isNulFree_of_decode {bytes : Bytes} {message : Message}
    (decoded : Message.decode bytes = .ok message) : message.IsNulFree := by
  obtain ⟨frame, split, read⟩ := decode_eq_ok_iff.mp decoded
  exact frame.isNulFree_of_message (Frame.length_body_lt split) read

theorem Message.length_le_of_decode {bytes : Bytes} {message : Message}
    (decoded : Message.decode bytes = .ok message) : bytes.length ≤ maximumSize := by
  obtain ⟨frame, split, _⟩ := decode_eq_ok_iff.mp decoded
  exact (Frame.decode_eq_ok_iff.mp split).2.2

/-- A written message says its own length, which was counted before it was written, and it is read
back as itself exactly when none of its closed texts holds the character zero and its frame is not
too long. -/
theorem Message.decode_encode_eq_ok_iff (message : Message)
    (sized : message.encode.length < UInt64.size) :
    (Message.decode message.encode = .ok message ↔
        message.IsNulFree ∧ message.encode.length ≤ maximumSize) ∧
      (bytesWord (message.encode.take 8)).toNat = message.encode.length := by
  constructor
  · constructor
    · intro decoded
      exact ⟨isNulFree_of_decode decoded, length_le_of_decode decoded⟩
    · intro given
      rcases given with ⟨free, within⟩
      exact message.decode_encode free within
  · have front : bytesWord (message.encode.take 8) = message.frame.header.totalLength := by
      rw [encode_eq_frame_bytes, Frame.bytes, Header.bytes, List.append_assoc,
        take_wordBytes_append, bytesWord_wordBytes]
    rw [front, totalLength_frame sized]

/-- An announcement with a path outside ASCII and an empty table space is read back, and a listing of
a text that holds a zero is not. -/
theorem decode_encode_announcement_and_listing :
    Message.decode
        (Message.put ⟨"/päth", true, "STANDARD", 67108864, true, ""⟩).encode =
      .ok (.put ⟨"/päth", true, "STANDARD", 67108864, true, ""⟩) ∧
    Message.decode (Message.list "a\x00b").encode ≠ .ok (.list "a\x00b") := by
  constructor
  · have sized :
        (Message.put ⟨"/päth", true, "STANDARD", 67108864, true, ""⟩).encode.length = 107 := by
      decide +kernel
    refine (Message.decode_encode_eq_ok_iff _ ?_).1.mpr ⟨?_, ?_⟩
    · rw [sized]
      decide
    · exact ⟨by decide +kernel, by decide, by decide⟩
    · rw [sized]
      decide
  · intro decoded
    have sized : (Message.list "a\x00b").encode.length < UInt64.size := by decide +kernel
    have free := ((Message.decode_encode_eq_ok_iff _ sized).1.mp decoded).1
    exact absurd free (by change ¬NulFree _; decide)

end SegmentOffload.Wire
