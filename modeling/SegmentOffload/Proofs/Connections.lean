import SegmentOffload.Session
import SegmentOffload.Proofs.Wire.Arrivals

/-!
What each call on a connection does to the peer and to the lines.

A call touches the line of its own connection only, never takes a line away, and tells the peer at
most one thing.  A connection is made at the end of the lines; on the line that was made last, each
call is followed to what has been sent there.
-/

namespace SegmentOffload

open Wire (arrivingBytes)

theorem Line.sent_push (line : Line) (turns : List Wire.Turn) (data : Bytes) :
    ({ line with turns, pieces := data :: line.pieces } : Line).sent = line.sent ++ data := by
  simp only [Line.sent, List.reverse_cons, List.flatten_append, List.flatten_singleton]

namespace Network

variable {π : Type} [Peer π]

/-! ### Lines -/

omit [Peer π] in
theorem openLine?_eq_some_iff {connection : Nat} {network : Network π} {line : Line} :
    network.openLine? connection = some line ↔
      network.lines[connection]? = some line ∧ line.isOpen = true := by
  rw [openLine?, Option.filter_eq_some_iff]

omit [Peer π] in
@[simp] theorem lines_setLine (connection : Nat) (line : Line) (network : Network π) :
    (network.setLine connection line).lines = network.lines.set connection line := rfl

omit [Peer π] in
@[simp] theorem peer_setLine (connection : Nat) (line : Line) (network : Network π) :
    (network.setLine connection line).peer = network.peer := rfl

omit [Peer π] in
theorem openLine?_setLine {connection : Nat} {network : Network π} {earlier line : Line}
    (found : network.openLine? connection = some earlier) (held : line.isOpen = true) :
    (network.setLine connection line).openLine? connection = some line := by
  obtain ⟨there, _⟩ := openLine?_eq_some_iff.mp found
  obtain ⟨inside, _⟩ := List.getElem?_eq_some_iff.mp there
  rw [openLine?_eq_some_iff]
  refine ⟨?_, held⟩
  rw [lines_setLine, List.getElem?_set_self inside]

/-! ### Connecting -/

theorem connect_eq_ok {disk : Disk} {socket : String} {network later : Network π}
    {connection : Nat} (connected : network.connect disk socket = (.ok connection, later)) :
    ∃ opening peer, Peer.accept network.lines.length network.peer = (.ok opening, peer) ∧
      connection = network.lines.length ∧
      later = ⟨peer, network.lines ++ [.ofOpening opening]⟩ := by
  unfold connect at connected
  split at connected
  · cases connected
  · split at connected
    · cases connected
    · rename_i opening peer accepted
      cases connected
      exact ⟨opening, peer, accepted, rfl, rfl⟩

theorem connect_eq_error {disk : Disk} {socket : String} {network later : Network π}
    {error : IoError} (refused : network.connect disk socket = (.error error, later)) :
    later = network ∨
      ∃ peer, Peer.accept network.lines.length network.peer = (.error error, peer) ∧
        later = { network with peer } := by
  unfold connect at refused
  split at refused
  · cases refused
    exact Or.inl rfl
  · split at refused
    · rename_i peer declined
      cases refused
      exact Or.inr ⟨peer, declined, rfl⟩
    · cases refused

omit [Peer π] in
theorem openLine?_connected (network : Network π) (opening : Opening) (peer : π) :
    (⟨peer, network.lines ++ [.ofOpening opening]⟩ : Network π).openLine? network.lines.length =
      some (.ofOpening opening) := by
  rw [openLine?_eq_some_iff]
  constructor
  · exact List.getElem?_concat_length
  · rfl

/-! ### Sending -/

/-- What sending does to the network: nothing, or the peer has heard what the line took. -/
theorem send_cases {connection : Nat} {data : Bytes} {network later : Network π} {line : Line}
    {outcome : Except IoError Unit} (found : network.openLine? connection = some line)
    (sent : network.send connection data = (outcome, later)) :
    later.lines.length = network.lines.length ∧
      (later.peer = network.peer ∨
        later.peer =
          (Peer.hear connection (Wire.writeAll data line.turns).accepted network.peer).2) := by
  unfold send at sent
  rw [found] at sent
  simp only at sent
  split at sent
  · cases sent
    exact ⟨rfl, Or.inl rfl⟩
  · split at sent
    · cases sent
      exact ⟨rfl, Or.inl rfl⟩
    · split at sent
      · cases sent
        exact ⟨List.length_set, Or.inl rfl⟩
      · cases sent
        exact ⟨List.length_set, Or.inr rfl⟩

/-- Sending adds the front of the bytes to what was sent on the line, and all of them exactly when it
goes well. -/
theorem send_spec {connection : Nat} {data : Bytes} {network later : Network π} {line : Line}
    {outcome : Except IoError Unit} (found : network.openLine? connection = some line)
    (sent : network.send connection data = (outcome, later)) :
    ∃ written heard, later.lines = network.lines.set connection written ∧
      written.isOpen = true ∧ written.sent = line.sent ++ heard ∧ heard <+: data ∧
      (outcome = .ok () ↔ heard = data) := by
  obtain ⟨there, held⟩ := openLine?_eq_some_iff.mp found
  obtain ⟨inside, here⟩ := List.getElem?_eq_some_iff.mp there
  have same : network.lines = network.lines.set connection line := by
    rw [← here, List.set_getElem_self]
  have front := Wire.accepted_isPrefix_of_writeAll data line.turns
  have whole : (Wire.writeAll data line.turns).outcome = .ok () ↔
      (Wire.writeAll data line.turns).accepted = data :=
    ⟨Wire.accepted_of_writeAll, Wire.writeAll_of_accepted⟩
  unfold send at sent
  rw [found] at sent
  simp only at sent
  split at sent
  · rename_i nothing
    cases sent
    rw [List.isEmpty_iff.mp nothing]
    refine ⟨line, [], same, held, (List.append_nil _).symm, List.prefix_rfl, ?_⟩
    exact ⟨fun _ => rfl, fun _ => rfl⟩
  · rename_i nonempty
    split at sent
    · cases sent
      refine ⟨line, [], same, held, (List.append_nil _).symm, List.nil_prefix, ?_⟩
      constructor
      · intro impossible
        cases impossible
      · intro nothing
        rw [← nothing] at nonempty
        exact absurd rfl nonempty
    · split at sent
      · cases sent
        exact ⟨_, _, rfl, held, Line.sent_push line _ _, front, whole⟩
      · cases sent
        exact ⟨_, _, rfl, held, Line.sent_push line (Wire.writeAll data line.turns).turns _, front,
          whole⟩

/-- Bytes that were sent have all been heard, and the peer's answer is what arrives next. -/
theorem send_eq_ok {connection : Nat} {data : Bytes} {network later : Network π} {line : Line}
    (found : network.openLine? connection = some line) (nonempty : data ≠ [])
    (sent : network.send connection data = (.ok (), later)) :
    later.peer = (Peer.hear connection data network.peer).2 ∧
      ∃ written, later.openLine? connection = some written ∧ written.arrivals =
        line.arrivals ++ (Peer.hear connection data network.peer).1.arrivals := by
  have held := (openLine?_eq_some_iff.mp found).2
  have filled : data.isEmpty = false := by
    rw [List.isEmpty_eq_false_iff]
    exact nonempty
  unfold send at sent
  rw [found] at sent
  simp only [filled, Bool.false_eq_true, if_false] at sent
  split at sent
  · cases sent
  · split at sent
    · rename_i nothing
      have outcome : (Wire.writeAll data line.turns).outcome = .ok () := congrArg Prod.fst sent
      rw [Wire.accepted_of_writeAll outcome, filled] at nothing
      cases nothing
    · have outcome : (Wire.writeAll data line.turns).outcome = .ok () := congrArg Prod.fst sent
      have result := congrArg Prod.snd sent
      simp only [Wire.accepted_of_writeAll outcome] at result
      have answered : openLine? connection
          { network with peer := (Peer.hear connection data network.peer).2 } = some line := found
      rw [← result]
      exact ⟨rfl, _, openLine?_setLine answered held, rfl⟩

theorem send_of_hungUp {connection : Nat} {data : Bytes} {network : Network π} {line : Line}
    (found : network.openLine? connection = some line) (nonempty : data ≠ [])
    (gone : line.hungUp = true) :
    network.send connection data = (.error .brokenPipe, network) := by
  have filled : data.isEmpty = false := by
    rw [List.isEmpty_eq_false_iff]
    exact nonempty
  rw [send, found]
  simp only [filled, gone, Bool.false_eq_true, if_false, if_true]

/-- Over a line without turns ahead the peer hears everything at once. -/
theorem send_of_no_turns {connection : Nat} {data : Bytes} {network : Network π} {line : Line}
    (found : network.openLine? connection = some line) (nonempty : data ≠ [])
    (there : line.hungUp = false) (free : line.turns = []) :
    let heard := Peer.hear connection data network.peer
    let written := { line with pieces := data :: line.pieces }
    network.send connection data =
      (.ok (), { network with peer := heard.2 }.setLine connection (written.react heard.1)) := by
  have filled : data.isEmpty = false := by
    rw [List.isEmpty_eq_false_iff]
    exact nonempty
  rw [send, found]
  simp only [filled, there, free, Wire.writeAll_nil, Bool.false_eq_true, if_false]

/-! ### Reading and letting go -/

omit [Peer π] in
theorem read_cases {connection limit : Nat} {network later : Network π}
    {outcome : Except IoError Bytes} (took : network.read connection limit = (outcome, later)) :
    later.peer = network.peer ∧ later.lines.length = network.lines.length ∧
      ∀ data, outcome = .ok data →
        ∃ line rest, network.openLine? connection = some line ∧
          later.openLine? connection = some rest ∧
          arrivingBytes line.arrivals = data ++ arrivingBytes rest.arrivals := by
  unfold read at took
  split at took
  · cases took
    refine ⟨rfl, rfl, ?_⟩
    intro data impossible
    cases impossible
  · rename_i line found
    have held := (openLine?_eq_some_iff.mp found).2
    cases took
    refine ⟨rfl, List.length_set, ?_⟩
    intro data read
    refine ⟨line, _, found, openLine?_setLine found held, ?_⟩
    exact Wire.arrivingBytes_of_readPatiently (Prod.ext read rfl)

omit [Peer π] in
theorem receive_of_open {connection : Nat} {network : Network π} {line : Line}
    (found : network.openLine? connection = some line) :
    network.receive connection = ((Wire.readMessage line.arrivals).1, network.setLine connection
      { line with arrivals := (Wire.readMessage line.arrivals).2 }) := by
  rw [receive, found]

omit [Peer π] in
theorem receive_cases {connection : Nat} {network later : Network π}
    {outcome : Except Wire.FrameError Wire.Message}
    (received : network.receive connection = (outcome, later)) :
    later.peer = network.peer ∧ later.lines.length = network.lines.length := by
  unfold receive at received
  split at received
  · cases received
    exact ⟨rfl, rfl⟩
  · cases received
    exact ⟨rfl, List.length_set⟩

theorem release_cases (connection : Nat) (network : Network π) :
    (network.release connection).lines.length = network.lines.length ∧
      ((network.release connection).peer = network.peer ∨
        (network.release connection).peer = Peer.release connection network.peer) := by
  unfold release
  split
  · exact ⟨rfl, Or.inl rfl⟩
  · exact ⟨List.length_set, Or.inr rfl⟩

/-! ### The line made last -/

section

variable {before : List Line} {line : Line} {network later : Network π}

omit [Peer π] in
theorem openLine?_last (lines : network.lines = before ++ [line]) (held : line.isOpen = true) :
    network.openLine? before.length = some line := by
  rw [openLine?_eq_some_iff, lines]
  exact ⟨List.getElem?_concat_length, held⟩

omit [Peer π] in
theorem lines_setLine_last (lines : network.lines = before ++ [line]) (next : Line) :
    (network.setLine before.length next).lines = before ++ [next] := by
  rw [lines_setLine, lines, List.set_append_right _ _ (Nat.le_refl _), Nat.sub_self]
  rfl

theorem send_last {data : Bytes} {outcome : Except IoError Unit}
    (lines : network.lines = before ++ [line]) (held : line.isOpen = true)
    (sent : network.send before.length data = (outcome, later)) :
    ∃ written heard, later.lines = before ++ [written] ∧ written.isOpen = true ∧
      written.sent = line.sent ++ heard ∧ heard <+: data ∧ (outcome = .ok () → heard = data) := by
  obtain ⟨written, heard, there, opened, grown, front, whole⟩ :=
    send_spec (openLine?_last lines held) sent
  rw [← lines_setLine, lines_setLine_last lines] at there
  exact ⟨written, heard, there, opened, grown, front, whole.mp⟩

omit [Peer π] in
theorem receive_last {outcome : Except Wire.FrameError Wire.Message}
    (lines : network.lines = before ++ [line]) (held : line.isOpen = true)
    (received : network.receive before.length = (outcome, later)) :
    later.lines = before ++ [{ line with arrivals := (Wire.readMessage line.arrivals).2 }] ∧
      outcome = (Wire.readMessage line.arrivals).1 := by
  rw [receive_of_open (openLine?_last lines held)] at received
  cases received
  exact ⟨lines_setLine_last lines _, rfl⟩

omit [Peer π] in
theorem read_last {limit : Nat} {outcome : Except IoError Bytes}
    (lines : network.lines = before ++ [line]) (held : line.isOpen = true)
    (took : network.read before.length limit = (outcome, later)) :
    later.lines =
      before ++ [{ line with arrivals := (Wire.readPatiently limit line.arrivals).2 }] := by
  rw [read, openLine?_last lines held] at took
  cases took
  exact lines_setLine_last lines _

theorem release_last (lines : network.lines = before ++ [line]) :
    ∃ released, (network.release before.length).lines = before ++ [released] ∧
      released.isOpen = false ∧ released.sent = line.sent := by
  unfold release
  split
  · rename_i missing
    refine ⟨line, lines, ?_, rfl⟩
    rw [← Bool.not_eq_true]
    intro held
    rw [openLine?_last lines held] at missing
    cases missing
  · rename_i open? found
    obtain ⟨there, _⟩ := openLine?_eq_some_iff.mp found
    rw [lines, List.getElem?_concat_length] at there
    cases there
    have told (peer : π) : ({ network with peer } : Network π).lines = before ++ [line] := lines
    exact ⟨_, lines_setLine_last (told _) _, rfl, rfl⟩

end

end Network

/-! ### Sessions on the line made last -/

/-- A session holds the line behind all others, and so much was sent there. -/
def Session.Holds (session : Session) (before : List Line) (said : Bytes) (lines : List Line) :
    Prop :=
  session.connection = before.length ∧
    ∃ line, lines = before ++ [line] ∧ line.isOpen = true ∧ line.sent = said

namespace Session

variable {π : Type} [Peer π] {before : List Line} {said : Bytes} {session : Session}
  {network later : Network π}

theorem connect_holds {disk : Disk} {socket remotePath : String}
    (connected : connect disk socket remotePath network = (.ok session, later)) :
    session.Holds network.lines [] later.lines := by
  cases made : network.connect disk socket with
  | mk outcome middle =>
    rw [connect, made] at connected
    cases outcome with
    | error error => cases connected
    | ok connection =>
      cases connected
      obtain ⟨opening, peer, _, rfl, rfl⟩ := Network.connect_eq_ok made
      exact ⟨rfl, _, rfl, rfl, rfl⟩

theorem connect_refused {disk : Disk} {socket remotePath : String} {error : ClientError}
    (refused : connect disk socket remotePath network = (.error error, later)) :
    later.lines = network.lines ∧ ∃ cause, error = .connect socket cause := by
  cases made : network.connect disk socket with
  | mk outcome middle =>
    rw [connect, made] at refused
    cases outcome with
    | ok connection => cases refused
    | error cause =>
      cases refused
      refine ⟨?_, cause, rfl⟩
      rcases Network.connect_eq_error made with rfl | ⟨peer, _, rfl⟩
      · rfl
      · rfl

/-- Letting go of the line takes nothing back of what was sent there. -/
theorem Holds.close (holds : session.Holds before said network.lines) :
    ∃ line, (session.close network).lines = before ++ [line] ∧ line.isOpen = false ∧
      line.sent = said := by
  obtain ⟨place, line, lines, _, rfl⟩ := holds
  rw [Session.close, place]
  exact Network.release_last lines

omit [Peer π] in
theorem Holds.read {limit : Nat} {outcome : Except IoError Bytes}
    (holds : session.Holds before said network.lines)
    (took : session.read limit network = (outcome, later)) :
    session.Holds before said later.lines := by
  obtain ⟨place, line, lines, held, same⟩ := holds
  rw [Session.read, place] at took
  exact ⟨place, _, Network.read_last lines held took, held, same⟩

/-- A frame is sent whole, or its front is and the line is let go. -/
theorem Holds.send {frame : Bytes} {action : String} {outcome : Except ClientError Unit}
    (holds : session.Holds before said network.lines)
    (sent : session.send frame action network = (outcome, later)) :
    (outcome = .ok () ∧ session.Holds before (said ++ frame) later.lines) ∨
      ∃ error line, outcome = .error (.transport action session.remotePath error) ∧
        later.lines = before ++ [line] ∧ line.isOpen = false ∧ line.sent <+: said ++ frame := by
  obtain ⟨place, line, lines, held, rfl⟩ := holds
  rw [Session.send, place] at sent
  cases taken : network.send before.length frame with
  | mk result middle =>
    obtain ⟨written, heard, found, opened, grown, front, whole⟩ :=
      Network.send_last lines held taken
    rw [taken] at sent
    cases result with
    | ok nothing =>
      cases sent
      rw [whole rfl] at grown
      exact .inl ⟨rfl, place, written, found, opened, grown⟩
    | error error =>
      cases sent
      obtain ⟨released, last, closed, same⟩ := Network.release_last found
      refine .inr ⟨error, released, rfl, ?_, closed, ?_⟩
      · rw [Session.close, place]
        exact last
      · rw [same, grown, List.prefix_append_right_inj]
        exact front

end Session

end SegmentOffload
