import SegmentOffload.Proofs.Wire.RoundTrip

/-!
Which bytes are messages.

Bytes are accepted as a message other than an announcement exactly when they are that message as it
would be written, up to the three flag bytes, of which any value is taken.  An announcement may be
spelled in many ways, and writing it anew is a normal form: no longer than what was read, and read
as the same announcement.
-/

namespace SegmentOffload.Wire

/-! ### Flag bytes -/

/-- The flag bytes among the bytes of a frame. -/
def flagsOf (bytes : Bytes) : Flags :=
  ⟨bytes.getD 9 0, bytes.getD 10 0, bytes.getD 11 0⟩

/-- Bytes that are the same everywhere but at the flag bytes. -/
def AgreeOutsideFlags (left right : Bytes) : Prop :=
  left.length = right.length ∧
    ∀ index, index ≠ 9 → index ≠ 10 → index ≠ 11 → left[index]? = right[index]?

def Frame.setFlags (frame : Frame) (flags : Flags) : Frame :=
  { frame with header := { frame.header with flags } }

theorem Frame.bytes_eq (frame : Frame) :
    frame.bytes = wordBytes frame.header.totalLength ++
      (frame.header.tag.byte :: frame.header.flags.first :: frame.header.flags.second ::
        frame.header.flags.third :: frame.body) := by
  simp only [bytes, Header.bytes, Flags.bytes, List.append_assoc, List.cons_append,
    List.nil_append]

theorem Frame.getElem?_bytes_add_eight (frame : Frame) (index : Nat) :
    frame.bytes[8 + index]? =
      (frame.header.tag.byte :: frame.header.flags.first :: frame.header.flags.second ::
        frame.header.flags.third :: frame.body)[index]? := by
  rw [bytes_eq, List.getElem?_append_right (by rw [length_wordBytes]; omega), length_wordBytes,
    Nat.add_sub_cancel_left]

theorem flagsOf_bytes (frame : Frame) : flagsOf frame.bytes = frame.header.flags := by
  have first : frame.bytes[9]? = some frame.header.flags.first :=
    frame.getElem?_bytes_add_eight 1
  have second : frame.bytes[10]? = some frame.header.flags.second :=
    frame.getElem?_bytes_add_eight 2
  have third : frame.bytes[11]? = some frame.header.flags.third :=
    frame.getElem?_bytes_add_eight 3
  simp only [flagsOf, List.getD_eq_getElem?_getD, first, second, third, Option.getD_some]

theorem Frame.agreeOutsideFlags_setFlags (frame : Frame) (flags : Flags) :
    AgreeOutsideFlags frame.bytes (frame.setFlags flags).bytes := by
  constructor
  · rw [length_bytes, length_bytes]
    rfl
  · intro index notFirst notSecond notThird
    by_cases inLength : index < 8
    · have inside : index < (wordBytes frame.header.totalLength).length := by
        rw [length_wordBytes]
        exact inLength
      rw [bytes_eq, bytes_eq, List.getElem?_append_left inside]
      exact (List.getElem?_append_left inside).symm
    · obtain ⟨behind, same⟩ : ∃ behind, index = 8 + behind := ⟨index - 8, by omega⟩
      rw [same, getElem?_bytes_add_eight, getElem?_bytes_add_eight]
      match behind with
      | 0 => rfl
      | 1 => exact absurd same notFirst
      | 2 => exact absurd same notSecond
      | 3 => exact absurd same notThird
      | _ + 4 => rfl

/-- Bytes agree with a frame outside the flags exactly when they are that frame with their own
flags. -/
theorem agreeOutsideFlags_frame_iff {bytes : Bytes} {frame : Frame} :
    AgreeOutsideFlags bytes frame.bytes ↔ bytes = (frame.setFlags (flagsOf bytes)).bytes := by
  constructor
  · intro given
    rcases given with ⟨sameLength, agreed⟩
    have other := frame.agreeOutsideFlags_setFlags (flagsOf bytes)
    have own := flagsOf_bytes (frame.setFlags (flagsOf bytes))
    have long : 12 ≤ bytes.length := by
      rw [sameLength, Frame.length_bytes, headerSize]
      omega
    apply List.ext_getElem?
    intro index
    by_cases outside : index ≠ 9 ∧ index ≠ 10 ∧ index ≠ 11
    · obtain ⟨notFirst, notSecond, notThird⟩ := outside
      rw [agreed index notFirst notSecond notThird, other.2 index notFirst notSecond notThird]
    · have flag : ∀ place, place < 12 → bytes[place]? = some (bytes.getD place 0) := by
        intro place small
        have inside : place < bytes.length := by omega
        rw [List.getD_eq_getElem?_getD, List.getElem?_eq_getElem inside, Option.getD_some]
      have position : index = 9 ∨ index = 10 ∨ index = 11 := by omega
      rcases position with first | second | third
      · rw [first, flag 9 (by omega)]
        exact ((frame.setFlags (flagsOf bytes)).getElem?_bytes_add_eight 1).symm
      · rw [second, flag 10 (by omega)]
        exact ((frame.setFlags (flagsOf bytes)).getElem?_bytes_add_eight 2).symm
      · rw [third, flag 11 (by omega)]
        exact ((frame.setFlags (flagsOf bytes)).getElem?_bytes_add_eight 3).symm
  · intro same
    have other := frame.agreeOutsideFlags_setFlags (flagsOf bytes)
    rw [← same] at other
    refine ⟨other.1.symm, ?_⟩
    intro index notFirst notSecond notThird
    exact (other.2 index notFirst notSecond notThird).symm

/-! ### Messages with other flags -/

@[simp] theorem Message.tag_withFlags (message : Message) (flags : Flags) :
    (message.withFlags flags).tag = message.tag := by
  cases message <;> rfl

@[simp] theorem Message.withFlags_withFlags (message : Message) (flags : Flags) :
    (message.withFlags flags).withFlags flags = message.withFlags flags := by
  cases message <;> rfl

theorem Message.isNulFree_withFlags {message : Message} (flags : Flags)
    (free : message.IsNulFree) : (message.withFlags flags).IsNulFree := by
  cases message <;> exact free

theorem Message.body_withFlags (message : Message) (flags : Flags) :
    (message.withFlags flags).body = message.body := by
  cases message <;> rfl

/-! ### Acceptance -/

/-- A frame that carries anything but an announcement is that message as it is written, with the
frame's own flags. -/
theorem Frame.eq_setFlags_of_message {bytes : Bytes} {frame : Frame} {message : Message}
    (split : Frame.decode bytes = .ok frame) (read : frame.message = .ok message)
    (notPut : message.tag ≠ .put) :
    frame = message.frame.setFlags frame.header.flags ∧
      message.withFlags frame.header.flags = message := by
  have small := Frame.length_body_lt split
  have accepted : (takeBody frame.header.flags frame.header.tag).Accepts frame.body message := read
  have tagged : frame.header.tag ≠ .put := by
    intro put
    rw [put, takeBody, takePut_accepts_iff small] at accepted
    obtain ⟨_, _, _, _, _, _, _, rfl⟩ := accepted
    exact notPut rfl
  rw [takeBody_accepts_iff tagged small] at accepted
  obtain ⟨sameTag, _, flagged, sameBody⟩ := accepted
  obtain ⟨written, counted, _⟩ := Frame.decode_eq_ok_iff.mp split
  refine ⟨?_, flagged⟩
  have length : frame.header.totalLength = UInt64.ofNat (headerSize + message.body.length) := by
    have size := frame.length_bytes
    rw [← written, ← counted, sameBody] at size
    rw [← size, UInt64.ofNat_toNat]
  rw [Frame.setFlags, Message.frame, sameTag, ← length, ← sameBody]

/-- Bytes are accepted as a message other than an announcement exactly when they are the written
form of such a message up to the flag bytes. -/
theorem Message.decode_eq_ok_and_notPut_iff {bytes : Bytes} {message : Message} :
    (Message.decode bytes = .ok message ∧ message.tag ≠ .put) ↔
      ∃ original : Message, original.tag ≠ .put ∧ original.IsNulFree ∧
        original.encode.length ≤ maximumSize ∧ AgreeOutsideFlags bytes original.encode ∧
        message = original.withFlags (flagsOf bytes) := by
  constructor
  · intro given
    rcases given with ⟨decoded, notPut⟩
    obtain ⟨frame, split, read⟩ := decode_eq_ok_iff.mp decoded
    obtain ⟨written, _, within⟩ := Frame.decode_eq_ok_iff.mp split
    obtain ⟨sameFrame, flagged⟩ := Frame.eq_setFlags_of_message split read notPut
    have ownFlags : flagsOf bytes = frame.header.flags := by
      rw [written, flagsOf_bytes]
    have agreed : AgreeOutsideFlags bytes message.encode := by
      rw [encode_eq_frame_bytes, agreeOutsideFlags_frame_iff, ownFlags, ← sameFrame]
      exact written
    refine ⟨message, notPut, isNulFree_of_decode decoded, ?_, agreed, ?_⟩
    · rw [← agreed.1]
      exact within
    · rw [ownFlags, flagged]
  · intro given
    rcases given with ⟨original, notPut, free, within, agreed, rfl⟩
    have below : maximumSize < UInt64.size := by decide
    have length := original.length_encode
    have shape := agreed
    rw [encode_eq_frame_bytes, agreeOutsideFlags_frame_iff] at shape
    have split : Frame.decode bytes = .ok (original.frame.setFlags (flagsOf bytes)) := by
      rw [Frame.decode_eq_ok_iff]
      refine ⟨shape, ?_, ?_⟩
      · rw [agreed.1]
        exact totalLength_frame (by omega)
      · rw [agreed.1]
        exact within
    refine ⟨decode_eq_ok_iff.mpr ⟨_, split, ?_⟩, ?_⟩
    · change (takeBody (flagsOf bytes) original.tag).Accepts original.body _
      rw [takeBody_accepts_iff notPut (by omega)]
      exact ⟨original.tag_withFlags _, isNulFree_withFlags _ free,
        original.withFlags_withFlags _, (original.body_withFlags _).symm⟩
    · rw [tag_withFlags]
      exact notPut

/-- Writing what was read takes no more bytes than reading it did. -/
theorem Message.length_encode_le_of_decode {bytes : Bytes} {message : Message}
    (decoded : Message.decode bytes = .ok message) : message.encode.length ≤ bytes.length := by
  obtain ⟨frame, split, read⟩ := decode_eq_ok_iff.mp decoded
  obtain ⟨written, _, _⟩ := Frame.decode_eq_ok_iff.mp split
  by_cases put : message.tag = .put
  · have small := Frame.length_body_lt split
    have accepted : (takeBody frame.header.flags frame.header.tag).Accepts frame.body message := read
    have tagged : frame.header.tag = .put := by
      by_contra notPut
      rw [takeBody_accepts_iff notPut small] at accepted
      exact notPut (accepted.1.symm.trans put)
    rw [tagged, takeBody, takePut_accepts_iff small] at accepted
    obtain ⟨path, settings, request, _, _, body, made, rfl⟩ := accepted
    obtain ⟨samePath, _, named⟩ := PutRequest.ofSettings_eq_ok_iff.mp made
    have shorter := PutRequest.length_bytes_settings_le named
    rw [length_encode, written, frame.length_bytes, body, Message.body, samePath,
      List.length_append, List.length_append]
    omega
  · obtain ⟨sameFrame, _⟩ := Frame.eq_setFlags_of_message split read put
    rw [written, sameFrame, encode_eq_frame_bytes, Frame.length_bytes, Frame.length_bytes]
    exact Nat.le_refl _

theorem Message.decode_encode_of_decode {bytes : Bytes} {message : Message}
    (decoded : Message.decode bytes = .ok message) :
    Message.decode message.encode = .ok message := by
  have shorter := length_encode_le_of_decode decoded
  have within := length_le_of_decode decoded
  exact message.decode_encode (isNulFree_of_decode decoded) (by omega)

/-- The bytes of messages other than announcements are their written forms up to the flag bytes,
and writing any message that was read is a normal form of its bytes. -/
theorem Message.decode_grammar (bytes : Bytes) :
    (∀ message, (Message.decode bytes = .ok message ∧ message.tag ≠ .put) ↔
      ∃ original : Message, original.tag ≠ .put ∧ original.IsNulFree ∧
        original.encode.length ≤ maximumSize ∧ AgreeOutsideFlags bytes original.encode ∧
        message = original.withFlags (flagsOf bytes)) ∧
    (∀ message, Message.decode bytes = .ok message →
      message.encode.length ≤ bytes.length ∧ Message.decode message.encode = .ok message) ∧
    (Message.decode bytes >>= fun message => Message.decode message.encode) =
      Message.decode bytes := by
  refine ⟨fun message => decode_eq_ok_and_notPut_iff, ?_, ?_⟩
  · intro message decoded
    exact ⟨length_encode_le_of_decode decoded, decode_encode_of_decode decoded⟩
  · generalize outcome : Message.decode bytes = read
    cases read with
    | error malformed => rfl
    | ok message => exact bind_eq_ok_iff.mpr ⟨message, rfl, decode_encode_of_decode outcome⟩

/-- An announcement whose settings stand in another order, with one more among them and the chunk
size spelled with a sign and zeros. -/
def looseAnnouncement : Bytes :=
  let body := textField "p" ++
    Settings.bytes [(Settings.tableSpace, ""), (Settings.multipartUpload, "0"), ("Region", "x"),
      (Settings.multipartChunkSize, "+005"), (Settings.storageClass, "s")]
  Header.bytes ⟨UInt64.ofNat (headerSize + body.length), .put, ⟨7, 0, 9⟩⟩ ++ body

theorem decode_encode_looseAnnouncement :
    Message.decode looseAnnouncement = .ok (.put ⟨"p", true, "s", 5, false, ""⟩) ∧
      (Message.put ⟨"p", true, "s", 5, false, ""⟩).encode.length ≤ looseAnnouncement.length ∧
      Message.decode (Message.put ⟨"p", true, "s", 5, false, ""⟩).encode =
        .ok (.put ⟨"p", true, "s", 5, false, ""⟩) := by
  have decoded :
      Message.decode looseAnnouncement = .ok (.put ⟨"p", true, "s", 5, false, ""⟩) := by
    decide +kernel
  exact ⟨decoded, (Message.decode_grammar looseAnnouncement).2.1 _ decoded⟩

end SegmentOffload.Wire
