import SegmentOffload.Proofs.Wire.Framing

/-!
Messages sent one after the other over streams that cut them anywhere.

Every frame is taken once and in order by a stream that takes it piecemeal and interrupts, and the
reader on the far side finds the same messages, one for each call, and nothing after them but the end
of the stream.  A stream that refuses to go on leaves the front of a frame.
-/

namespace SegmentOffload.Wire

/-- What so many calls for a message come to. -/
def readMessages : (calls : Nat) → List Arrival → List (Except FrameError Message)
  | 0, _ => []
  | calls + 1, arrivals =>
    match readMessage arrivals with
    | (outcome, later) => outcome :: readMessages calls later

/-- What a call finds where a stream has ended, be it inside a message. -/
def streamEnded : Except FrameError Message :=
  .error (.io .unexpectedEnd)

theorem readMessages_nil (calls : Nat) :
    readMessages calls [] = List.replicate calls streamEnded := by
  induction calls with
  | zero => rfl
  | succ calls ih =>
    have ended : readMessage [] = (streamEnded, []) := rfl
    rw [readMessages, ended, List.replicate_succ]
    exact congrArg _ ih

/-- Whole messages are read one for each call, and what is cut off behind them never is. -/
theorem readMessages_of_delivers {arrivals : List Arrival} {messages : List Message}
    {next : Message} {cut : Bytes} {calls extra : Nat}
    (deliver : ∀ arrival ∈ arrivals, arrival.Delivers)
    (sendable : ∀ message ∈ messages,
      message.IsNulFree ∧ message.encode.length ≤ maximumSize)
    (fits : next.encode.length ≤ maximumSize) (front : cut <+: next.encode)
    (unfinished : cut ≠ next.encode)
    (arrive : arrivingBytes arrivals = messages.flatMap Message.encode ++ cut)
    (enough : calls ≤ extra) :
    readMessages calls arrivals =
      (messages.map Except.ok ++ List.replicate extra streamEnded).take calls := by
  induction calls generalizing arrivals messages with
  | zero => rfl
  | succ calls ih =>
    cases messages with
    | nil =>
      rw [List.flatMap_nil, List.nil_append] at arrive
      rw [← arrive] at front unfinished
      rw [readMessages, readMessage_of_cut deliver fits front unfinished]
      simp only [readMessages_nil]
      rw [List.map_nil, List.nil_append, List.take_replicate, Nat.min_eq_left enough,
        List.replicate_succ]
      rfl
    | cons message others =>
      obtain ⟨⟨free, within⟩, rest⟩ := List.forall_mem_cons.mp sendable
      rw [List.flatMap_cons, List.append_assoc] at arrive
      obtain ⟨later, read, behind, delivers⟩ :=
        readMessage_of_delivers deliver free within arrive
      rw [readMessages, read, List.map_cons, List.cons_append, List.take_succ_cons]
      exact congrArg _ (ih delivers rest behind (Nat.le_of_succ_le enough))

/-- What a stream has taken of some messages, each written under turns of its own. -/
def deliveredBytes (sends : List (Message × List Turn)) : Bytes :=
  sends.flatMap fun send => (writeFrame send.1.encode send.2 (.ok ())).accepted

theorem writeFrame_of_accepts {frame : Bytes} {turns : List Turn}
    (accept : ∀ turn ∈ turns, turn.Accepts) :
    (writeFrame frame turns (.ok ())).outcome = .ok () ∧
      (writeFrame frame turns (.ok ())).accepted = frame := by
  have written : (writeAll frame turns).outcome = .ok () ∧
      (writeAll frame turns).accepted = frame := writeAll_of_accepts accept
  rw [writeFrame, written.1]
  exact ⟨rfl, written.2⟩

theorem deliveredBytes_of_accepts {sends : List (Message × List Turn)}
    (accept : ∀ send ∈ sends, ∀ turn ∈ send.2, turn.Accepts) :
    deliveredBytes sends = (sends.map Prod.fst).flatMap Message.encode := by
  rw [deliveredBytes, List.flatMap_map]
  apply List.flatMap_congr
  intro send listed
  exact (writeFrame_of_accepts (accept send listed)).2

/-- Frames survive streams that cut them.  A stream that takes bytes piecemeal and interrupts takes
each frame once and whole; a refusal ends the write with its error and leaves the front of the frame;
and however the bytes taken arrive, followed or not by the front of one more frame, each call reads
one of the messages, in order, and every further call finds the stream at its end. -/
theorem messages_survive_fragmentation :
    (∀ (frame : Bytes) (turns : List Turn), (∀ turn ∈ turns, turn.Accepts) →
      (writeFrame frame turns (.ok ())).outcome = .ok () ∧
        (writeFrame frame turns (.ok ())).accepted = frame) ∧
    (∀ (frame : Bytes) (turns later : List Turn) (turn : Turn) (error : IoError)
        (flush : Except IoError Unit), (∀ turn ∈ turns, turn.Accepts) →
      (turns.map (Turn.room frame.length)).sum < frame.length → turn.Refuses error →
      (writeFrame frame (turns ++ turn :: later) flush).outcome = .error error ∧
        (writeFrame frame (turns ++ turn :: later) flush).accepted =
          frame.take (turns.map (Turn.room frame.length)).sum) ∧
    ∀ (sends : List (Message × List Turn)) (next : Message) (cut : Bytes)
        (arrivals : List Arrival) (calls : Nat),
      (∀ send ∈ sends, send.1.IsNulFree ∧ send.1.encode.length ≤ maximumSize) →
      (∀ send ∈ sends, ∀ turn ∈ send.2, turn.Accepts) →
      next.encode.length ≤ maximumSize → cut <+: next.encode → cut ≠ next.encode →
      (∀ arrival ∈ arrivals, arrival.Delivers) →
      arrivingBytes arrivals = deliveredBytes sends ++ cut →
      readMessages calls arrivals =
        ((sends.map Prod.fst).map Except.ok ++ List.replicate calls streamEnded).take calls := by
  refine ⟨?_, ?_, ?_⟩
  · intro frame turns accept
    exact writeFrame_of_accepts accept
  · intro frame turns later turn error flush accept unfinished refuses
    have stopped : writeAll frame (turns ++ turn :: later) = _ :=
      writeAll_of_refusal accept (Nat.le_refl _) unfinished refuses
    rw [writeFrame, stopped]
    exact ⟨rfl, rfl⟩
  · intro sends next cut arrivals calls sendable accept fits front unfinished deliver arrive
    rw [deliveredBytes_of_accepts accept] at arrive
    refine readMessages_of_delivers deliver ?_ fits front unfinished arrive (Nat.le_refl calls)
    rw [List.forall_mem_map]
    exact sendable

/-- A listing and an acknowledgement, taken piecemeal. -/
def piecemealSends : List (Message × List Turn) :=
  [(.list "/a", [.interrupted, .upTo 5, .upTo 1]), (.readyForQuery, [.upTo 11])]

/-- They arrive cut inside the first length and inside the second header, with the front of one more
acknowledgement behind them. -/
def piecemealArrivals : List Arrival :=
  [.bytes [0, 0, 0], .interrupted, .bytes [0, 0, 0, 0, 15, 48, 0, 0, 0, 47, 97, 0, 0], .interrupted,
    .interrupted, .bytes [0, 0, 0, 0, 0, 0, 12, 45], .bytes [0, 0, 0, 0, 0, 0, 0, 0, 0, 0, 12, 45]]

theorem piecemealArrivals_survive :
    readMessages 4 piecemealArrivals =
        [.ok (.list "/a"), .ok .readyForQuery, streamEnded, streamEnded] ∧
      (writeFrame [1, 2, 3, 4] [.upTo 2, .interrupted, .upTo 0] (.ok ())).accepted = [1, 2] := by
  obtain ⟨_, refused, read⟩ := messages_survive_fragmentation
  have sendable : ∀ send ∈ piecemealSends,
      send.1.IsNulFree ∧ send.1.encode.length ≤ maximumSize := by
    rw [piecemealSends, List.forall_mem_cons, List.forall_mem_singleton]
    have free : NulFree "/a" := by decide
    exact ⟨⟨free, by decide +kernel⟩, trivial, by decide⟩
  constructor
  · refine read piecemealSends .readyForQuery [0, 0, 0, 0, 0, 0, 0, 12, 45] piecemealArrivals 4
      sendable ?_ ?_ ?_ ?_ ?_ ?_
    all_goals decide +kernel
  · exact (refused [1, 2, 3, 4] [.upTo 2, .interrupted] [] (.upTo 0) .nothingWritten (.ok ())
      (by decide) (by decide) ⟨rfl, rfl⟩).2

end SegmentOffload.Wire
