import SegmentOffload.Proofs.Connections

/-!
The life of a session.

A call that fails lets the connection go before it answers, wherever in it the failure arises; and a
session that has let its connection go refuses every call and touches nothing.  So an open session is
in step with its peer: everything that was sent went out whole, and everything that was read was a
message.  What the end of a request is answered depends on two things alone, whether its frame went
out whole and what arrives next.
-/

namespace SegmentOffload

open Wire (Arrival FrameError Message)

variable {π : Type} [Peer π]

namespace Network

theorem openLine?_release (connection : Nat) (network : Network π) :
    (network.release connection).openLine? connection = none := by
  unfold release
  split
  · assumption
  · rename_i line found
    obtain ⟨there, _⟩ := openLine?_eq_some_iff.mp found
    obtain ⟨inside, _⟩ := List.getElem?_eq_some_iff.mp there
    have told : ∀ peer : π, ({ network with peer }.setLine connection
        { line with isOpen := false }).openLine? connection = none := by
      intro peer
      rw [openLine?, lines_setLine, List.getElem?_set_self inside]
      rfl
    exact told _

theorem release_of_closed {connection : Nat} {network : Network π}
    (closed : network.openLine? connection = none) : network.release connection = network := by
  rw [release, closed]

omit [Peer π] in
theorem openLine?_of_lines {connection : Nat} {network later : Network π} {line written : Line}
    (found : network.openLine? connection = some line)
    (lines : later.lines = network.lines.set connection written) (held : written.isOpen = true) :
    later.openLine? connection = some written := by
  have same : later = { network with peer := later.peer }.setLine connection written := by
    cases later
    cases lines
    rfl
  rw [same]
  apply openLine?_setLine _ held
  · exact line
  · exact found

end Network

/-! ### Replies that are none -/

/-- Enough of a reply could be read to see that it is no message: its declared length is out of
range, its header has no meaning, or its body has none. -/
inductive Wire.Malforms (arrivals : List Arrival) : Prop where
  | length {bytes : Bytes} {later : List Arrival} {malformed : Malformed}
    (read : readExact 8 arrivals = (.ok bytes, later))
    (outside : checkLength (bytesWord bytes) = .error malformed) : Malforms arrivals
  | header {bytes rest : Bytes} {middle later : List Arrival} {declared : UInt64}
    {malformed : Malformed} (read : readExact 8 arrivals = (.ok bytes, middle))
    (within : checkLength (bytesWord bytes) = .ok declared)
    (whole : readExact (declared.toNat - 8) middle = (.ok rest, later))
    (unknown : Frame.ofRest declared rest = .error malformed) : Malforms arrivals
  | body {frame : Frame} {later : List Arrival} {malformed : Malformed}
    (read : readFrame arrivals = (.ok frame, later))
    (meaningless : frame.message = .error malformed) : Malforms arrivals

theorem Wire.malforms_iff {arrivals : List Arrival} :
    Malforms arrivals ↔ ∃ reason, (readMessage arrivals).1 = .error (.malformed reason) := by
  constructor
  · intro malforms
    cases malforms with
    | length read outside =>
      simp only [readMessage, readFrame, read, outside]
      exact ⟨_, rfl⟩
    | header read within whole unknown =>
      simp only [readMessage, readFrame, read, within, whole, unknown]
      exact ⟨_, rfl⟩
    | body read meaningless =>
      simp only [readMessage, read, meaningless]
      exact ⟨_, rfl⟩
  · rintro ⟨reason, malformed⟩
    cases taken : readFrame arrivals with
    | mk outcome later =>
      cases outcome with
      | ok frame =>
        cases meant : frame.message with
        | ok message =>
          simp only [readMessage, taken, meant] at malformed
          cases malformed
        | error problem => exact Malforms.body taken meant
      | error error =>
        simp only [readMessage, taken] at malformed
        cases malformed
        unfold readFrame at taken
        split at taken
        · cases taken
        · rename_i read
          split at taken
          · rename_i outside
            exact Malforms.length read outside
          · rename_i within
            split at taken
            · cases taken
            · rename_i whole
              split at taken
              · cases taken
              · rename_i unknown
                exact Malforms.header read within whole unknown

namespace Session

/-! ### Calls -/

inductive Call where
  | send (frame : Bytes) (action : String)
  | receive (action : String)
  | expectReady (action : String)
  | complete (action : String)
  | close
deriving DecidableEq, Repr

/-- The answer to a call, with the message where the call is for one. -/
def answer (session : Session) (network : Network π) :
    Call → Except ClientError (Option Message) × Network π
  | .send frame action =>
    let (outcome, network) := session.send frame action network
    (outcome.map fun _ => none, network)
  | .receive action =>
    let (outcome, network) := session.receive action network
    (outcome.map some, network)
  | .expectReady action =>
    let (outcome, network) := session.expectReady action network
    (outcome.map fun _ => none, network)
  | .complete action =>
    let (outcome, network) := session.complete action network
    (outcome.map fun _ => none, network)
  | .close => (.ok none, session.close network)

/-- What a session answers that has let its connection go. -/
def refusal (session : Session) : Call → Except ClientError (Option Message)
  | .send _ action => .error (.transport action session.remotePath .sessionClosed)
  | .receive action => .error (.transport action session.remotePath .sessionClosed)
  | .expectReady action => .error (.transport action session.remotePath .sessionClosed)
  | .complete action => .error (.transport action session.remotePath .sessionClosed)
  | .close => .ok none

/-- The calls after which a session is of no more use: those that fail, and the one that closes. -/
def Ends (call : Call) (answer : Except ClientError (Option Message)) : Prop :=
  call = .close ∨ ∃ error, answer = .error error

def run (session : Session) (network : Network π) :
    List Call → List (Except ClientError (Option Message)) × Network π
  | [] => ([], network)
  | call :: rest =>
    let (answer, network) := session.answer network call
    let (answers, network) := session.run network rest
    (answer :: answers, network)

variable {session : Session} {action : String} {network later : Network π}

/-! ### Closed sessions -/

omit [Peer π] in
theorem isOpen_eq_false_iff :
    session.isOpen network = false ↔ network.openLine? session.connection = none := by
  rw [isOpen, Network.isOpen, Option.isSome_eq_false_iff, Option.isNone_iff_eq_none]

omit [Peer π] in
theorem isOpen_of_openLine? {line : Line}
    (found : network.openLine? session.connection = some line) :
    session.isOpen network = true := by
  rw [isOpen, Network.isOpen, found]
  rfl

theorem isOpen_close (session : Session) (network : Network π) :
    session.isOpen (session.close network) = false :=
  isOpen_eq_false_iff.mpr (Network.openLine?_release _ _)

theorem close_of_closed (closed : session.isOpen network = false) :
    session.close network = network :=
  Network.release_of_closed (isOpen_eq_false_iff.mp closed)

theorem send_of_closed (closed : session.isOpen network = false) (frame : Bytes)
    (action : String) : session.send frame action network =
      (.error (.transport action session.remotePath .sessionClosed), network) := by
  have none := isOpen_eq_false_iff.mp closed
  simp only [send, Network.send, none, close_of_closed closed]

theorem receive_of_closed (closed : session.isOpen network = false) (action : String) :
    session.receive action network =
      (.error (.transport action session.remotePath .sessionClosed), network) := by
  have none := isOpen_eq_false_iff.mp closed
  simp only [receive, Network.receive, none, close_of_closed closed, FrameError.toClientError]

theorem answer_of_closed (closed : session.isOpen network = false) (call : Call) :
    session.answer network call = (session.refusal call, network) := by
  cases call with
  | send frame action =>
    rw [answer, send_of_closed closed]
    rfl
  | receive action =>
    rw [answer, receive_of_closed closed]
    rfl
  | expectReady action =>
    rw [answer, expectReady, receive_of_closed closed]
    rfl
  | complete action =>
    rw [answer, complete, send_of_closed closed]
    rfl
  | close =>
    rw [answer, close_of_closed closed]
    rfl

theorem run_of_closed (closed : session.isOpen network = false) (calls : List Call) :
    session.run network calls = (calls.map session.refusal, network) := by
  induction calls with
  | nil => rfl
  | cons call rest ih =>
    rw [run, answer_of_closed closed]
    simp only [ih]
    rfl

/-! ### One call on an open session -/

theorem isOpen_send {frame : Bytes} {outcome : Except ClientError Unit}
    (held : session.isOpen network = true)
    (sent : session.send frame action network = (outcome, later)) :
    session.isOpen later = outcome.isOk := by
  cases taken : network.send session.connection frame with
  | mk result middle =>
    rw [send, taken] at sent
    cases result with
    | error error =>
      cases sent
      exact isOpen_close session middle
    | ok nothing =>
      cases sent
      obtain ⟨line, found⟩ := Option.isSome_iff_exists.mp held
      obtain ⟨written, _, lines, stillHeld, _⟩ := Network.send_spec found taken
      exact isOpen_of_openLine? (Network.openLine?_of_lines found lines stillHeld)

theorem isOpen_receive {outcome : Except ClientError Message}
    (held : session.isOpen network = true)
    (received : session.receive action network = (outcome, later)) :
    session.isOpen later = outcome.isOk := by
  obtain ⟨line, found⟩ := Option.isSome_iff_exists.mp held
  rw [receive, Network.receive_of_open found] at received
  cases read : (Wire.readMessage line.arrivals).1 with
  | error error =>
    simp only [read] at received
    cases received
    exact isOpen_close session _
  | ok message =>
    simp only [read] at received
    cases received
    have stillHeld := (Network.openLine?_eq_some_iff.mp found).2
    exact isOpen_of_openLine? (Network.openLine?_setLine found stillHeld)

theorem isOpen_expectReady {outcome : Except ClientError Unit}
    (held : session.isOpen network = true)
    (answered : session.expectReady action network = (outcome, later)) :
    session.isOpen later = outcome.isOk := by
  cases taken : session.receive action network with
  | mk result middle =>
    have kept := isOpen_receive held taken
    unfold expectReady at answered
    rw [taken] at answered
    split at answered
    · rename_i same
      cases same
      cases answered
      exact kept
    · rename_i same
      cases same
      cases answered
      exact kept
    · rename_i same
      cases same
      cases answered
      exact isOpen_close session middle

theorem isOpen_complete {outcome : Except ClientError Unit} (held : session.isOpen network = true)
    (completed : session.complete action network = (outcome, later)) :
    session.isOpen later = outcome.isOk := by
  cases taken : session.send Message.commandComplete.encode action network with
  | mk result middle =>
    have kept := isOpen_send held taken
    rw [complete, taken] at completed
    cases result with
    | error error =>
      cases completed
      exact kept
    | ok nothing => exact isOpen_expectReady kept completed

theorem isOk_map {α β : Type} (outcome : Except ClientError α) (f : α → β) :
    (outcome.map f).isOk = outcome.isOk := by
  cases outcome with
  | ok value => rfl
  | error error => rfl

/-- An open session is let go by a call exactly when the call fails or is to let it go. -/
theorem isOpen_answer {call : Call} {given : Except ClientError (Option Message)}
    (held : session.isOpen network = true) (answered : session.answer network call = (given, later)) :
    session.isOpen later = (call != .close && given.isOk) := by
  cases call with
  | send frame action =>
    cases answered
    rw [isOpen_send held rfl, isOk_map]
    rfl
  | receive action =>
    cases answered
    rw [isOpen_receive held rfl, isOk_map]
    rfl
  | expectReady action =>
    cases answered
    rw [isOpen_expectReady held rfl, isOk_map]
    rfl
  | complete action =>
    cases answered
    rw [isOpen_complete held rfl, isOk_map]
    rfl
  | close =>
    cases answered
    exact isOpen_close session network

theorem ends_iff {call : Call} {given : Except ClientError (Option Message)} :
    Ends call given ↔ (call != .close && given.isOk) = false := by
  rw [Ends, Bool.and_eq_false_iff, bne_eq_false_iff_eq]
  cases given with
  | ok message =>
    constructor
    · rintro (closing | ⟨_, impossible⟩)
      · exact Or.inl closing
      · cases impossible
    · rintro (closing | impossible)
      · exact Or.inl closing
      · cases impossible
  | error error => exact ⟨fun _ => Or.inr rfl, fun _ => Or.inr ⟨error, rfl⟩⟩

theorem closed_of_ends {call : Call} {given : Except ClientError (Option Message)}
    (answered : session.answer network call = (given, later)) (ends : Ends call given) :
    session.isOpen later = false := by
  cases held : session.isOpen network with
  | true => rw [isOpen_answer held answered, ends_iff.mp ends]
  | false =>
    rw [answer_of_closed held] at answered
    cases answered
    exact held

/-! ### Any number of calls -/

theorem refused_of_closed (closed : session.isOpen network = false) (calls : List Call) :
    ∀ exchange ∈ calls.zip (session.run network calls).1,
      exchange.2 = session.refusal exchange.1 := by
  rw [run_of_closed closed]
  intro exchange listed
  obtain ⟨place, inside, same⟩ := List.mem_iff_getElem.mp listed
  rw [← same, List.getElem_zip, List.getElem_map]

/-- Behind a call that ends the session there are refusals only. -/
theorem pairwise_run (calls : List Call) :
    (calls.zip (session.run network calls).1).Pairwise fun earlier later =>
      Ends earlier.1 earlier.2 → later.2 = session.refusal later.1 := by
  induction calls generalizing network with
  | nil => exact List.Pairwise.nil
  | cons call rest ih =>
    cases answered : session.answer network call with
    | mk given middle =>
      rw [run, answered]
      apply List.pairwise_cons.mpr
      constructor
      · intro exchange listed ends
        exact refused_of_closed (closed_of_ends answered ends) rest exchange listed
      · exact ih

/-- A session stays open for as long as no call ends it. -/
theorem isOpen_run (held : session.isOpen network = true) (calls : List Call) :
    session.isOpen (session.run network calls).2 = false ↔
      ∃ exchange ∈ calls.zip (session.run network calls).1, Ends exchange.1 exchange.2 := by
  induction calls generalizing network with
  | nil =>
    rw [run, held]
    constructor
    · intro impossible
      cases impossible
    · rintro ⟨_, impossible, _⟩
      cases impossible
  | cons call rest ih =>
    cases answered : session.answer network call with
    | mk given middle =>
      rw [run, answered]
      simp only [List.zip_cons_cons, List.mem_cons, exists_eq_or_imp]
      cases kept : session.isOpen middle with
      | true =>
        have goesOn : ¬Ends call given := by
          intro ends
          rw [closed_of_ends answered ends] at kept
          cases kept
        rw [ih kept]
        exact ⟨Or.inr, fun either => either.resolve_left goesOn⟩
      | false =>
        rw [run_of_closed kept]
        refine ⟨fun _ => Or.inl ?_, fun _ => kept⟩
        rw [ends_iff, ← isOpen_answer held answered, kept]

/-! ### The end of a request -/

/-- A frame goes out whole on the line of the session, which stands so afterwards. -/
def Delivers (session : Session) (frame : Bytes) (network : Network π) (line : Line) : Prop :=
  ∃ earlier, network.openLine? session.connection = some earlier ∧
    (network.send session.connection frame).2.openLine? session.connection = some line ∧
    line.sent = earlier.sent ++ frame

/-- What is answered when the end of a request went out whole, by what was read then. -/
def verdict (session : Session) (action : String) :
    Except FrameError Message → Except ClientError Unit
  | .ok .readyForQuery => .ok ()
  | .ok other => .error (.protocolViolation
      (s!"expected ReadyForQuery while {action} for {session.remotePath}, got " ++
        other.tag.name))
  | .error error => .error (error.toClientError action session.remotePath)

theorem Delivers.unique {frame : Bytes} {line other : Line}
    (delivers : session.Delivers frame network line)
    (again : session.Delivers frame network other) : line = other := by
  obtain ⟨_, _, found, _⟩ := delivers
  obtain ⟨_, _, same, _⟩ := again
  rw [found] at same
  exact Option.some.inj same

theorem expectReady_of_open {line : Line}
    (found : network.openLine? session.connection = some line) :
    (session.expectReady action network).1 =
      session.verdict action (Wire.readMessage line.arrivals).1 := by
  rw [expectReady, receive, Network.receive_of_open found]
  cases (Wire.readMessage line.arrivals).1 with
  | error error => rfl
  | ok message =>
    cases message with
    | readyForQuery => rfl
    | _ => rfl

theorem complete_cases (session : Session) (action : String) (network : Network π) :
    (∃ line, session.Delivers Message.commandComplete.encode network line ∧
        (session.complete action network).1 =
          session.verdict action (Wire.readMessage line.arrivals).1) ∨
      (∀ line, ¬session.Delivers Message.commandComplete.encode network line) ∧
        ∃ cause, (session.complete action network).1 =
          .error (.transport action session.remotePath cause) := by
  cases opened : network.openLine? session.connection with
  | none =>
    refine Or.inr ⟨?_, .sessionClosed, ?_⟩
    · rintro line ⟨_, impossible, _⟩
      rw [opened] at impossible
      cases impossible
    · rw [complete, send_of_closed (isOpen_eq_false_iff.mpr opened)]
  | some earlier =>
    cases taken : network.send session.connection Message.commandComplete.encode with
    | mk result middle =>
      obtain ⟨line, heard, lines, held, grown, _, whole⟩ := Network.send_spec opened taken
      have found : middle.openLine? session.connection = some line :=
        Network.openLine?_of_lines opened lines held
      cases result with
      | error cause =>
        refine Or.inr ⟨?_, cause, ?_⟩
        · rintro other ⟨first, same, last, delivered⟩
          rw [opened] at same
          rw [taken, found] at last
          cases same
          cases last
          rw [grown, List.append_right_inj] at delivered
          cases whole.mpr delivered
        · rw [complete, send, taken]
      | ok nothing =>
        refine Or.inl ⟨line, ⟨earlier, opened, ?_, ?_⟩, ?_⟩
        · rw [taken]
          exact found
        · rw [grown, whole.mp rfl]
        · rw [complete, send, taken]
          exact expectReady_of_open found

theorem verdict_eq_ok_iff {reply : Except FrameError Message} :
    session.verdict action reply = .ok () ↔ reply = .ok .readyForQuery := by
  by_cases ready : reply = .ok .readyForQuery
  · rw [ready]
    exact ⟨fun _ => rfl, fun _ => rfl⟩
  · refine ⟨?_, fun same => absurd same ready⟩
    intro well
    unfold verdict at well
    split at well
    · exact absurd rfl ready
    · cases well
    · cases well

theorem verdict_breach_iff {reply : Except FrameError Message} :
    (∃ reason, session.verdict action reply = .error (.protocolViolation reason)) ↔
      (∃ reason, reply = .error (.malformed reason)) ∨
        ∃ message, reply = .ok message ∧ message ≠ .readyForQuery := by
  constructor
  · rintro ⟨reason, breach⟩
    unfold verdict at breach
    split at breach
    · cases breach
    · rename_i other unexpected
      exact Or.inr ⟨other, rfl, unexpected⟩
    · rename_i error
      cases error with
      | io cause => cases breach
      | malformed reason => exact Or.inl ⟨reason, rfl⟩
  · rintro (⟨reason, rfl⟩ | ⟨message, rfl, unexpected⟩)
    · exact ⟨reason, rfl⟩
    · unfold verdict
      split
      · rename_i same
        cases same
        exact absurd rfl unexpected
      · exact ⟨_, rfl⟩
      · rename_i impossible
        cases impossible

theorem verdict_broken_iff {reply : Except FrameError Message} :
    (∃ cause, session.verdict action reply =
        .error (.transport action session.remotePath cause)) ↔
      ∃ cause, reply = .error (.io cause) := by
  constructor
  · rintro ⟨cause, broken⟩
    unfold verdict at broken
    split at broken
    · cases broken
    · cases broken
    · rename_i error
      cases error with
      | io cause => exact ⟨cause, rfl⟩
      | malformed reason => cases broken
  · rintro ⟨cause, rfl⟩
    exact ⟨cause, rfl⟩

/-- How the end of a request is answered.  It goes well when its frame went out whole and the
acknowledgement is what arrives next; it is a breach of the protocol when something else could be
read; and it is a failed transfer when the frame did not go out whole or nothing could be read. -/
structure AnswersCompletion (session : Session) (action : String) (network : Network π)
    (outcome : Except ClientError Unit) : Prop where
  acknowledged : outcome = .ok () ↔
    ∃ line, session.Delivers Message.commandComplete.encode network line ∧
      (Wire.readMessage line.arrivals).1 = .ok .readyForQuery
  breached : (∃ reason, outcome = .error (.protocolViolation reason)) ↔
    ∃ line, session.Delivers Message.commandComplete.encode network line ∧
      (Wire.Malforms line.arrivals ∨
        ∃ message, (Wire.readMessage line.arrivals).1 = .ok message ∧ message ≠ .readyForQuery)
  broken : (∃ cause, outcome = .error (.transport action session.remotePath cause)) ↔
    (∀ line, ¬session.Delivers Message.commandComplete.encode network line) ∨
      ∃ line, session.Delivers Message.commandComplete.encode network line ∧
        ∃ cause, (Wire.readMessage line.arrivals).1 = .error (.io cause)

theorem answersCompletion (session : Session) (action : String) (network : Network π) :
    session.AnswersCompletion action network (session.complete action network).1 := by
  rcases complete_cases session action network with
    ⟨line, delivers, answered⟩ | ⟨undelivered, cause, answered⟩
  · -- what holds of some line that the frame went out on holds of this one
    have only : ∀ {fact : Line → Prop},
        (∃ line, session.Delivers Message.commandComplete.encode network line ∧ fact line) ↔
          fact line := by
      intro fact
      constructor
      · rintro ⟨other, again, holds⟩
        rw [delivers.unique again]
        exact holds
      · intro holds
        exact ⟨line, delivers, holds⟩
    rw [answered]
    constructor
    · rw [only, verdict_eq_ok_iff]
    · rw [only, verdict_breach_iff, Wire.malforms_iff]
    · rw [only, verdict_broken_iff]
      exact ⟨Or.inr, fun either => either.resolve_left fun none => none line delivers⟩
  · rw [answered]
    constructor
    · constructor
      · intro impossible
        cases impossible
      · rintro ⟨line, delivers, _⟩
        exact absurd delivers (undelivered line)
    · constructor
      · rintro ⟨reason, impossible⟩
        cases impossible
      · rintro ⟨line, delivers, _⟩
        exact absurd delivers (undelivered line)
    · exact ⟨fun _ => Or.inl undelivered, fun _ => ⟨cause, rfl⟩⟩

/-- A session is closed by the first call that fails, or that is to close it, and is of no use from
then on: later calls are refused and touch neither peer nor network, and closing it again changes
nothing.  At any time the end of a request is answered by whether its frame went out whole and by
what arrives next. -/
theorem sessions_are_never_reused (session : Session) (network : Network π) (calls : List Call) :
    let (answers, reached) := session.run network calls
    let exchanges := calls.zip answers
    (session.isOpen network = true → (session.isOpen reached = false ↔
        ∃ exchange ∈ exchanges, Ends exchange.1 exchange.2)) ∧
      exchanges.Pairwise (fun earlier later =>
        Ends earlier.1 earlier.2 → later.2 = session.refusal later.1) ∧
      (session.isOpen reached = false →
        ∀ more, session.run reached more = (more.map session.refusal, reached)) ∧
      IoError.sessionClosed.message = "session already closed" ∧
      session.close (session.close reached) = session.close reached ∧
      ∀ action, session.AnswersCompletion action reached (session.complete action reached).1 := by
  refine ⟨?_, pairwise_run calls, ?_, rfl, ?_, ?_⟩
  · intro held
    exact isOpen_run held calls
  · intro closed more
    exact run_of_closed closed more
  · exact close_of_closed (isOpen_close session _)
  · intro action
    exact answersCompletion session action _

end Session

end SegmentOffload
