import SegmentOffload.Proofs.Wire.Framing

/-!
Streams that may break off anywhere.

A stream is of use up to the first read that fails or finds its end.  Up to there it makes no
difference how the bytes are cut: a message is read exactly when the bytes begin with a frame that
decodes to it, and then the bytes behind the frame are what is left.
-/

namespace SegmentOffload.Wire

/-- The bytes that arrive before a stream fails or ends. -/
def unbrokenBytes (arrivals : List Arrival) : Bytes :=
  arrivingBytes (arrivals.takeWhile fun arrival => arrival.Delivers)

theorem unbrokenBytes_cons {arrival : Arrival} (delivers : arrival.Delivers)
    (later : List Arrival) :
    unbrokenBytes (arrival :: later) = arrival.data ++ unbrokenBytes later := by
  rw [unbrokenBytes, List.takeWhile_cons_of_pos (by rw [decide_eq_true_iff]; exact delivers)]
  rfl

theorem unbrokenBytes_of_break {arrival : Arrival} (breaks : ¬arrival.Delivers)
    (later : List Arrival) : unbrokenBytes (arrival :: later) = [] := by
  rw [unbrokenBytes, List.takeWhile_cons_of_neg (by rw [decide_eq_true_iff]; exact breaks)]
  rfl

theorem unbrokenBytes_of_delivers {arrivals : List Arrival}
    (deliver : ∀ arrival ∈ arrivals, arrival.Delivers) :
    unbrokenBytes arrivals = arrivingBytes arrivals := by
  induction arrivals with
  | nil => rfl
  | cons arrival later ih =>
    obtain ⟨first, rest⟩ := List.forall_mem_cons.mp deliver
    rw [unbrokenBytes_cons first, arrivingBytes_cons, ih rest]

/-- What arrives before a break arrives. -/
theorem length_unbrokenBytes_le (arrivals : List Arrival) :
    (unbrokenBytes arrivals).length ≤ (arrivingBytes arrivals).length := by
  have whole := List.takeWhile_append_dropWhile (p := fun arrival => decide arrival.Delivers)
    (l := arrivals)
  have split : arrivingBytes arrivals = unbrokenBytes arrivals ++
      arrivingBytes (arrivals.dropWhile fun arrival => arrival.Delivers) := by
    rw [unbrokenBytes, arrivingBytes, arrivingBytes, arrivingBytes, ← List.flatMap_append, whole]
  rw [split, List.length_append]
  omega

/-! ### An exact number of bytes -/

/-- So many bytes are read when they arrive before the stream breaks, and no others are touched. -/
theorem readExact_of_enough {wanted : Nat} {arrivals : List Arrival}
    (enough : wanted ≤ (unbrokenBytes arrivals).length) :
    ∃ later, readExact wanted arrivals = (.ok ((unbrokenBytes arrivals).take wanted), later) ∧
      unbrokenBytes later = (unbrokenBytes arrivals).drop wanted := by
  induction arrivals generalizing wanted with
  | nil =>
    have none : wanted = 0 := Nat.le_zero.mp enough
    rw [none]
    exact ⟨[], rfl, rfl⟩
  | cons first rest ih =>
    by_cases none : wanted = 0
    · rw [none]
      exact ⟨first :: rest, by rw [readExact, List.take_zero], rfl⟩
    · by_cases delivers : first.Delivers
      · rw [unbrokenBytes_cons delivers] at enough ⊢
        cases first with
        | bytes data =>
          rw [readExact_bytes none delivers, Arrival.data]
          rw [Arrival.data, List.length_append] at enough
          by_cases more : wanted < data.length
          · have left : (Arrival.bytes (data.drop wanted)).Delivers := by
              intro nothing
              have size := congrArg List.length nothing
              rw [List.length_drop, List.length_nil] at size
              omega
            rw [if_pos more]
            refine ⟨_, by rw [List.take_append_of_le_length (Nat.le_of_lt more)], ?_⟩
            rw [unbrokenBytes_cons left, Arrival.data,
              List.drop_append_of_le_length (Nat.le_of_lt more)]
          · have beyond : wanted - data.length ≤ (unbrokenBytes rest).length := by omega
            obtain ⟨later, read, remains⟩ := ih beyond
            have whole : data.length ≤ wanted := by omega
            rw [if_neg more, read]
            refine ⟨later, ?_, ?_⟩
            · rw [List.take_append, List.take_of_length_le whole]
              rfl
            · rw [remains, List.drop_append, List.drop_of_length_le whole, List.nil_append]
        | interrupted =>
          obtain ⟨later, read, remains⟩ := ih enough
          refine ⟨later, ?_, remains⟩
          rw [readExact, read]
          · rfl
          · exact none
        | fail error => exact absurd delivers id
      · rw [unbrokenBytes_of_break delivers] at enough
        exact absurd (Nat.le_zero.mp enough) none

/-- A stream that breaks too early gives an error. -/
theorem readExact_of_short {wanted : Nat} {arrivals : List Arrival}
    (short : (unbrokenBytes arrivals).length < wanted) :
    ∃ error later, readExact wanted arrivals = (.error error, later) := by
  induction arrivals generalizing wanted with
  | nil =>
    rw [readExact]
    · exact ⟨_, _, rfl⟩
    · omega
  | cons first rest ih =>
    have positive : wanted ≠ 0 := by omega
    by_cases delivers : first.Delivers
    · rw [unbrokenBytes_cons delivers] at short
      cases first with
      | bytes data =>
        rw [Arrival.data, List.length_append] at short
        obtain ⟨error, later, failed⟩ := @ih (wanted - data.length) (by omega)
        rw [readExact_bytes positive delivers, if_neg (by omega), failed]
        exact ⟨error, later, rfl⟩
      | interrupted =>
        rw [readExact]
        · exact ih short
        · exact positive
      | fail error => exact absurd delivers id
    · cases first with
      | bytes data =>
        have nothing : data = [] := Classical.not_not.mp delivers
        rw [nothing, readExact]
        · exact ⟨_, _, rfl⟩
        · exact positive
      | interrupted => exact absurd trivial delivers
      | fail error =>
        rw [readExact]
        · exact ⟨error, rest, rfl⟩
        · exact positive

theorem readExact_eq_ok {wanted : Nat} {arrivals later : List Arrival} {data : Bytes}
    (read : readExact wanted arrivals = (.ok data, later)) :
    data.length = wanted ∧ unbrokenBytes arrivals = data ++ unbrokenBytes later := by
  by_cases enough : wanted ≤ (unbrokenBytes arrivals).length
  · obtain ⟨after, taken, remains⟩ := readExact_of_enough enough
    rw [read] at taken
    cases taken
    rw [remains, List.length_take, List.take_append_drop]
    exact ⟨Nat.min_eq_left enough, rfl⟩
  · obtain ⟨error, after, failed⟩ := readExact_of_short (Nat.lt_of_not_le enough)
    rw [read] at failed
    cases failed

/-! ### Frames and messages -/

variable {arrivals later : List Arrival} {bytes left : Bytes} {frame : Frame} {message : Message}

theorem readFrame_of_decode (decoded : Frame.decode bytes = .ok frame)
    (front : unbrokenBytes arrivals = bytes ++ left) :
    ∃ later, readFrame arrivals = (.ok frame, later) ∧ unbrokenBytes later = left := by
  obtain ⟨written, agreed, within⟩ := Frame.decode_eq_ok_iff.mp decoded
  have size := frame.length_bytes
  have shape := written.trans frame.bytes_eq_append_rest
  have total := congrArg List.length shape
  have accepted : checkLength frame.header.totalLength = .ok frame.header.totalLength :=
    checkLength_eq_ok_iff.mpr ⟨rfl, by rw [agreed, written, size]; omega, by omega⟩
  rw [List.length_append, length_wordBytes] at total
  rw [shape, List.append_assoc] at front
  have begun : 8 ≤ (unbrokenBytes arrivals).length := by
    rw [front, List.length_append, length_wordBytes]
    omega
  obtain ⟨middle, readLength, behind⟩ := readExact_of_enough begun
  rw [front, take_wordBytes_append] at readLength
  rw [front, drop_wordBytes_append] at behind
  have enough : frame.rest.length ≤ (unbrokenBytes middle).length := by
    rw [behind, List.length_append]
    omega
  obtain ⟨later, readRest, remains⟩ := readExact_of_enough enough
  rw [behind, List.take_left] at readRest
  rw [behind, List.drop_left] at remains
  have declared : frame.header.totalLength.toNat - 8 = frame.rest.length := by omega
  refine ⟨later, ?_, remains⟩
  rw [readFrame, readLength]
  simp only [bytesWord_wordBytes, accepted, declared, readRest, frame.ofRest_rest]

theorem decode_of_readFrame (read : readFrame arrivals = (.ok frame, later)) :
    ∃ bytes, Frame.decode bytes = .ok frame ∧
      unbrokenBytes arrivals = bytes ++ unbrokenBytes later := by
  unfold readFrame at read
  split at read
  · cases read
  · rename_i length middle taken
    split at read
    · cases read
    · rename_i declared accepted
      split at read
      · cases read
      · rename_i rest last filled
        split at read
        · rename_i found split
          cases read
          obtain ⟨eight, front⟩ := readExact_eq_ok taken
          obtain ⟨whole, back⟩ := readExact_eq_ok filled
          obtain ⟨same, enough, within⟩ := checkLength_eq_ok_iff.mp accepted
          obtain ⟨total, _⟩ := Frame.ofRest_eq_ok_iff.mp split
          have joined : (length ++ rest).length = declared.toNat := by
            rw [List.length_append, eight, whole, same]
            rw [headerSize] at enough
            omega
          refine ⟨length ++ rest, ?_, ?_⟩
          · rw [Frame.decode, if_neg (by rw [joined, same]; rw [headerSize] at enough; omega),
              List.take_left' eight, List.drop_left' eight, accepted]
            simp only [joined, if_true]
            exact split
          · rw [front, back, List.append_assoc]
        · cases read

/-- A message at the front of an unbroken stream is read, and what is behind it stays. -/
theorem readMessage_of_decode (decoded : Message.decode bytes = .ok message)
    (front : unbrokenBytes arrivals = bytes ++ left) :
    ∃ later, readMessage arrivals = (.ok message, later) ∧ unbrokenBytes later = left := by
  obtain ⟨frame, split, meant⟩ := Message.decode_eq_ok_iff.mp decoded
  obtain ⟨later, read, remains⟩ := readFrame_of_decode split front
  refine ⟨later, ?_, remains⟩
  rw [readMessage, read]
  simp only [meant]

/-- Only a message at the front of an unbroken stream is read. -/
theorem decode_of_readMessage (read : readMessage arrivals = (.ok message, later)) :
    ∃ bytes, Message.decode bytes = .ok message ∧
      unbrokenBytes arrivals = bytes ++ unbrokenBytes later := by
  unfold readMessage at read
  split at read
  · cases read
  · rename_i frame middle taken
    split at read
    · rename_i meant
      cases read
      obtain ⟨bytes, split, front⟩ := decode_of_readFrame taken
      exact ⟨bytes, Message.decode_eq_ok_iff.mpr ⟨frame, split, meant⟩, front⟩
    · cases read

/-- A stream begins with one frame at most. -/
theorem decode_front_unique {other rest remains : Bytes} {next : Message}
    (decoded : Message.decode bytes = .ok message) (again : Message.decode other = .ok next)
    (same : bytes ++ rest = other ++ remains) : bytes = other ∧ message = next := by
  have stands : ∀ stream : Bytes, unbrokenBytes [.bytes stream] = stream := by
    intro stream
    by_cases nothing : stream = []
    · rw [nothing]
      rfl
    · have delivers : (Arrival.bytes stream).Delivers := nothing
      rw [unbrokenBytes_cons delivers]
      exact List.append_nil stream
  obtain ⟨later, read, left⟩ := readMessage_of_decode decoded (stands (bytes ++ rest))
  obtain ⟨after, taken, beyond⟩ := readMessage_of_decode again ((stands (bytes ++ rest)).trans same)
  rw [read] at taken
  cases taken
  rw [← left, ← beyond, List.append_cancel_right_eq] at same
  exact ⟨same, rfl⟩

theorem ne_nil_of_decode (decoded : Message.decode bytes = .ok message) : bytes ≠ [] := by
  rintro rfl
  cases decoded

end SegmentOffload.Wire
