import SegmentOffload.Proofs.Wire.UnbrokenStreams

/-!
Frames read from a stream, and frames split off a buffer.

The two readers check in different orders and cut the header out of different bytes.  They accept
the same frames all the same: a stream gives a frame exactly when its bytes begin with a buffer
that is split into that frame, and what is behind that buffer stays unread.  A length out of bounds
is refused by both for the same reason, and then the stream has given its length and nothing more.
-/

namespace SegmentOffload.Wire

/-! ### Bytes that wait on a stream -/

/-- A stream on which bytes wait, all at once, and nothing behind them. -/
def waiting (bytes : Bytes) : List Arrival :=
  if bytes = [] then [] else [.bytes bytes]

theorem waiting_nil : waiting [] = [] := rfl

theorem waiting_of_ne_nil {bytes : Bytes} (nonempty : bytes ≠ []) :
    waiting bytes = [.bytes bytes] :=
  if_neg nonempty

theorem unbrokenBytes_waiting (bytes : Bytes) : unbrokenBytes (waiting bytes) = bytes := by
  by_cases nothing : bytes = []
  · rw [nothing]
    rfl
  · have delivers : (Arrival.bytes bytes).Delivers := nothing
    rw [waiting_of_ne_nil nothing, unbrokenBytes_cons delivers]
    exact List.append_nil bytes

/-- Reading leaves waiting bytes waiting, as far as it does not take them. -/
theorem readExact_waiting (wanted : Nat) (stream : Bytes) :
    ∃ rest, (readExact wanted (waiting stream)).2 = waiting rest := by
  by_cases none : wanted = 0
  · rw [none, readExact]
    exact ⟨stream, rfl⟩
  · by_cases nothing : stream = []
    · refine ⟨[], ?_⟩
      rw [nothing, waiting_nil, readExact]
      exact none
    · rw [waiting_of_ne_nil nothing, readExact_bytes none nothing]
      by_cases more : wanted < stream.length
      · have left : stream.drop wanted ≠ [] := by
          rw [ne_eq, List.drop_eq_nil_iff]
          omega
        rw [if_pos more, ← waiting_of_ne_nil left]
        exact ⟨_, rfl⟩
      · refine ⟨[], ?_⟩
        rw [if_neg more]
        cases wanted - stream.length <;> rfl

theorem readFrame_waiting (stream : Bytes) :
    ∃ rest, (readFrame (waiting stream)).2 = waiting rest := by
  obtain ⟨behind, afterLength⟩ := readExact_waiting 8 stream
  rw [readFrame]
  split
  · rename_i read
    rw [read] at afterLength
    exact ⟨behind, afterLength⟩
  · rename_i length middle read
    rw [read] at afterLength
    change middle = waiting behind at afterLength
    rw [afterLength]
    split
    · exact ⟨behind, rfl⟩
    · rename_i declared _
      obtain ⟨rest, afterBody⟩ := readExact_waiting (declared.toNat - 8) behind
      split
      · rename_i read
        rw [read] at afterBody
        exact ⟨rest, afterBody⟩
      · rename_i read
        rw [read] at afterBody
        refine ⟨rest, ?_⟩
        split
        · exact afterBody
        · exact afterBody

/-! ### Frames -/

variable {arrivals : List Arrival} {frame : Frame} {stream rest : Bytes}

/-- However its bytes are cut, a stream gives the frames that are split off buffers. -/
theorem readFrame_eq_ok_iff :
    (∃ later, readFrame arrivals = (.ok frame, later) ∧ unbrokenBytes later = rest) ↔
      ∃ bytes, unbrokenBytes arrivals = bytes ++ rest ∧ Frame.decode bytes = .ok frame := by
  constructor
  · rintro ⟨later, read, rfl⟩
    obtain ⟨bytes, decoded, front⟩ := decode_of_readFrame read
    exact ⟨bytes, front, decoded⟩
  · rintro ⟨bytes, front, decoded⟩
    exact readFrame_of_decode decoded front

theorem readFrame_waiting_eq_ok_iff :
    readFrame (waiting stream) = (.ok frame, waiting rest) ↔
      ∃ bytes, stream = bytes ++ rest ∧ Frame.decode bytes = .ok frame := by
  have agree := @readFrame_eq_ok_iff (waiting stream) frame rest
  rw [unbrokenBytes_waiting] at agree
  rw [← agree]
  constructor
  · intro read
    exact ⟨_, read, unbrokenBytes_waiting rest⟩
  · rintro ⟨later, read, remains⟩
    obtain ⟨left, same⟩ := readFrame_waiting stream
    rw [read] at same
    change later = _ at same
    rw [same, unbrokenBytes_waiting] at remains
    rw [read, same, remains]

/-! ### Lengths out of bounds -/

/-- What is wrong with a declared length, when it is out of bounds. -/
def lengthFault (declared : UInt64) : Malformed :=
  if declared.toNat < headerSize then .belowMinimum declared else .aboveMaximum declared

theorem checkLength_of_fault {declared : UInt64}
    (outside : declared.toNat < headerSize ∨ maximumSize < declared.toNat) :
    checkLength declared = .error (lengthFault declared) := by
  unfold checkLength lengthFault
  by_cases short : declared.toNat < headerSize
  · rw [if_pos short, if_pos short]
  · rw [if_neg short, if_neg short, if_pos (outside.resolve_left short)]

theorem decode_of_fault (begun : 8 ≤ stream.length)
    (outside : (bytesWord (stream.take 8)).toNat < headerSize ∨
      maximumSize < (bytesWord (stream.take 8)).toNat) :
    Frame.decode stream = .error (lengthFault (bytesWord (stream.take 8))) := by
  rw [Frame.decode, if_neg (Nat.not_lt.mpr begun), checkLength_of_fault outside]

theorem readFrame_of_fault (begun : 8 ≤ (unbrokenBytes arrivals).length)
    (outside : (bytesWord ((unbrokenBytes arrivals).take 8)).toNat < headerSize ∨
      maximumSize < (bytesWord ((unbrokenBytes arrivals).take 8)).toNat) :
    ∃ later, readFrame arrivals =
        (.error (.malformed (lengthFault (bytesWord ((unbrokenBytes arrivals).take 8))).message),
          later) ∧
      unbrokenBytes later = (unbrokenBytes arrivals).drop 8 := by
  obtain ⟨later, readLength, behind⟩ := readExact_of_enough begun
  refine ⟨later, ?_, behind⟩
  rw [readFrame, readLength]
  simp only [checkLength_of_fault outside]

/-! ### Agreement -/

/-- Frames read from streams and frames split off buffers are the same, whatever follows them and
however the stream cuts them; so a buffer is split into a frame exactly when a stream of its bytes
gives that frame and has nothing left; and a length out of bounds is refused by both for the same
reason, with only the length taken from the stream. -/
theorem streams_agree_with_buffers :
    (∀ arrivals frame rest,
      (∃ later, readFrame arrivals = (.ok frame, later) ∧ unbrokenBytes later = rest) ↔
        ∃ bytes, unbrokenBytes arrivals = bytes ++ rest ∧ Frame.decode bytes = .ok frame) ∧
    (∀ stream, ∃ rest, (readFrame (waiting stream)).2 = waiting rest) ∧
    (∀ stream frame rest, readFrame (waiting stream) = (.ok frame, waiting rest) ↔
      ∃ bytes, stream = bytes ++ rest ∧ Frame.decode bytes = .ok frame) ∧
    (∀ bytes frame, Frame.decode bytes = .ok frame ↔
      readFrame (waiting bytes) = (.ok frame, [])) ∧
    ∀ stream : Bytes, 8 ≤ stream.length →
      let declared := bytesWord (stream.take 8)
      declared.toNat < 12 ∨ 2 ^ 30 < declared.toNat →
      let fault := if declared.toNat < 12 then Malformed.belowMinimum declared
        else .aboveMaximum declared
      Frame.decode stream = .error fault ∧
        readFrame (waiting stream) = (.error (.malformed fault.message), waiting (stream.drop 8)) ∧
        ∀ arrivals, unbrokenBytes arrivals = stream →
          ∃ later, readFrame arrivals = (.error (.malformed fault.message), later) ∧
            unbrokenBytes later = stream.drop 8 := by
  refine ⟨?_, readFrame_waiting, ?_, ?_, ?_⟩
  · intro arrivals frame rest
    exact readFrame_eq_ok_iff
  · intro stream frame rest
    exact readFrame_waiting_eq_ok_iff
  · intro bytes frame
    rw [← waiting_nil, readFrame_waiting_eq_ok_iff]
    simp only [List.append_nil, exists_eq_left']
  · intro stream begun declared outside fault
    have refused : ∀ arrivals, unbrokenBytes arrivals = stream →
        ∃ later, readFrame arrivals = (.error (.malformed fault.message), later) ∧
          unbrokenBytes later = stream.drop 8 := by
      rintro arrivals rfl
      exact readFrame_of_fault begun outside
    refine ⟨decode_of_fault begun outside, ?_, refused⟩
    obtain ⟨later, read, remains⟩ := refused (waiting stream) (unbrokenBytes_waiting stream)
    obtain ⟨rest, same⟩ := readFrame_waiting stream
    rw [read] at same
    change later = _ at same
    rw [same, unbrokenBytes_waiting] at remains
    rw [read, same, remains]

/-- An acknowledgement that is cut inside its length, with two bytes behind it and a failure behind
these. -/
def cutAcknowledgement : List Arrival :=
  [.bytes [0, 0, 0, 0, 0], .interrupted, .bytes [0, 0, 12, 45, 0], .bytes [0, 0, 7, 8],
    .fail .brokenPipe]

theorem streams_agree_with_buffers_behind_cutAcknowledgement :
    (∃ later, readFrame cutAcknowledgement = (.ok Message.readyForQuery.frame, later) ∧
      unbrokenBytes later = [7, 8]) ∧
    Frame.decode [0, 0, 0, 0, 0, 0, 0, 11, 9] = .error (.belowMinimum 11) ∧
    readFrame (waiting [0, 0, 0, 0, 0, 0, 0, 11, 9]) =
      (.error (.malformed "declared length 11 is below the 12-byte minimum"), [.bytes [9]]) := by
  obtain ⟨given, _, _, _, refused⟩ := streams_agree_with_buffers
  constructor
  · exact (given _ _ _).mpr ⟨Message.readyForQuery.encode, by decide, by decide⟩
  · obtain ⟨decoded, read, _⟩ := refused [0, 0, 0, 0, 0, 0, 0, 11, 9] (by decide) (by decide)
    exact ⟨decoded, read⟩

end SegmentOffload.Wire
