import SegmentOffload.Proofs.Wire.Arrivals
import SegmentOffload.Proofs.Wire.RoundTrip

/-!
Messages found at the front of what arrives.

Bytes that begin with a written message give that message's frame, however they are cut, and nothing
behind it is touched.  Bytes that break off inside a message give no message at all.
-/

namespace SegmentOffload.Wire

namespace Frame

/-- Everything behind the length. -/
def rest (frame : Frame) : Bytes :=
  frame.header.tag.byte :: frame.header.flags.bytes ++ frame.body

theorem bytes_eq_append_rest (frame : Frame) :
    frame.bytes = wordBytes frame.header.totalLength ++ frame.rest := by
  rw [bytes, Header.bytes, List.append_assoc, rest]

theorem ofRest_rest (frame : Frame) : ofRest frame.header.totalLength frame.rest = .ok frame :=
  ofRest_eq_ok_iff.mpr ⟨rfl, rfl⟩

end Frame

/-- A written message is its length and as many bytes as the length says. -/
structure Message.Declares (message : Message) (declared : UInt64) (rest : Bytes) : Prop where
  bytes : message.encode = wordBytes declared ++ rest
  accepted : checkLength declared = .ok declared
  length : rest.length = declared.toNat - 8
  whole : message.encode.length = declared.toNat
  frame : Frame.ofRest declared rest = .ok message.frame

theorem Message.declares_rest {message : Message} (within : message.encode.length ≤ maximumSize) :
    message.Declares message.frame.header.totalLength message.frame.rest := by
  have below : maximumSize < UInt64.size := by decide
  have declared := message.totalLength_frame (by omega)
  have length := message.length_encode
  have shape := message.encode_eq_frame_bytes.trans message.frame.bytes_eq_append_rest
  have size := congrArg List.length shape
  rw [List.length_append, length_wordBytes] at size
  constructor
  · exact shape
  · exact checkLength_eq_ok_iff.mpr ⟨rfl, by omega, by omega⟩
  · omega
  · exact declared.symm
  · exact message.frame.ofRest_rest

variable {arrivals : List Arrival} {message : Message} {left : Bytes}

theorem readFrame_of_delivers (deliver : ∀ arrival ∈ arrivals, arrival.Delivers)
    (within : message.encode.length ≤ maximumSize)
    (arrive : arrivingBytes arrivals = message.encode ++ left) :
    ∃ later, readFrame arrivals = (.ok message.frame, later) ∧ arrivingBytes later = left ∧
      ∀ arrival ∈ later, arrival.Delivers := by
  have declares := message.declares_rest within
  rw [declares.bytes, List.append_assoc] at arrive
  have begun : 8 ≤ (arrivingBytes arrivals).length := by
    rw [arrive, List.length_append, length_wordBytes]
    omega
  obtain ⟨middle, readLength, behind, delivers⟩ := readExact_of_le deliver begun
  rw [arrive, take_wordBytes_append] at readLength
  rw [arrive, drop_wordBytes_append] at behind
  have enough : message.frame.rest.length ≤ (arrivingBytes middle).length := by
    rw [behind, List.length_append]
    omega
  obtain ⟨later, readRest, remains, others⟩ := readExact_of_le delivers enough
  rw [behind, List.take_left] at readRest
  rw [behind, List.drop_left] at remains
  refine ⟨later, ?_, remains, others⟩
  rw [readFrame, readLength]
  simp only [bytesWord_wordBytes, declares.accepted]
  rw [← declares.length, readRest]
  simp only [declares.frame]

/-- The first frame of a buffer that begins with a written message. -/
theorem readFrame_encode (rest : Bytes) (within : message.encode.length ≤ maximumSize) :
    (readFrame [.bytes (message.encode ++ rest)]).1 = .ok message.frame := by
  have deliver : ∀ arrival ∈ [Arrival.bytes (message.encode ++ rest)], arrival.Delivers := by
    rw [List.forall_mem_singleton]
    intro nothing
    have size := congrArg List.length nothing
    rw [List.length_append, message.length_encode, headerSize, List.length_nil] at size
    omega
  obtain ⟨later, read, _⟩ := readFrame_of_delivers deliver within (List.append_nil _)
  rw [read]

/-- The message in front is read, and what is behind it stays. -/
theorem readMessage_of_delivers (deliver : ∀ arrival ∈ arrivals, arrival.Delivers)
    (free : message.IsNulFree) (within : message.encode.length ≤ maximumSize)
    (arrive : arrivingBytes arrivals = message.encode ++ left) :
    ∃ later, readMessage arrivals = (.ok message, later) ∧ arrivingBytes later = left ∧
      ∀ arrival ∈ later, arrival.Delivers := by
  obtain ⟨later, read, remains⟩ := readFrame_of_delivers deliver within arrive
  have below : maximumSize < UInt64.size := by decide
  have length := message.length_encode
  refine ⟨later, ?_, remains⟩
  rw [readMessage, read]
  simp only [message.message_frame free (by omega)]

/-- The front of a message is no message; nothing is left of it. -/
theorem readMessage_of_cut (deliver : ∀ arrival ∈ arrivals, arrival.Delivers)
    (within : message.encode.length ≤ maximumSize)
    (arrive : arrivingBytes arrivals <+: message.encode)
    (cut : arrivingBytes arrivals ≠ message.encode) :
    readMessage arrivals = (.error (.io .unexpectedEnd), []) := by
  have declares := message.declares_rest within
  have short : (arrivingBytes arrivals).length < message.encode.length := by
    have most := arrive.length_le
    have apart : (arrivingBytes arrivals).length ≠ message.encode.length := by
      intro same
      exact cut (arrive.eq_of_length same)
    omega
  by_cases begun : 8 ≤ (arrivingBytes arrivals).length
  · obtain ⟨middle, readLength, behind, delivers⟩ := readExact_of_le deliver begun
    have front : (arrivingBytes arrivals).take 8 =
        wordBytes message.frame.header.totalLength := by
      obtain ⟨missing, same⟩ := arrive
      rw [← List.take_append_of_le_length begun, same, declares.bytes, take_wordBytes_append]
    have stops : readExact (message.frame.header.totalLength.toNat - 8) middle =
        (.error .unexpectedEnd, []) := by
      apply readExact_of_lt delivers
      rw [behind, List.length_drop, ← declares.whole]
      omega
    rw [readMessage, readFrame, readLength, front]
    simp only [bytesWord_wordBytes, declares.accepted, stops]
  · have stops : readExact 8 arrivals = (.error .unexpectedEnd, []) :=
      readExact_of_lt deliver (by omega)
    rw [readMessage, readFrame, stops]

end SegmentOffload.Wire
