import SegmentOffload.Proofs.SessionLifetime
import SegmentOffload.Proofs.StoreIntake

/-!
The calls of an upload to a store that may lag behind.

Each call leaves the store somewhere within what was sent on the line of the upload: what waits
there is ahead of it, and nothing has come back before it has taken up the end.  So a failure
leaves the objects alone unless the end was sent, and the acknowledgement is that of a store that
has stored the upload.
-/

namespace SegmentOffload

open Wire (Message PutRequest)

namespace ObjectStore

variable {π : Type} [Peer π] {store : π → ObjectStore} {waiting : π → Nat → List Bytes}
  {before : ObjectStore} {request : PutRequest} {sent : Bytes} {isEnded : Bool}
  {connection : Nat} {network later : Network π}

/-! ### The line of an upload -/

/-- A line on which the store is still to take up some messages; it has answered at the end of the
upload only. -/
structure Awaits (waiting : π → Nat → List Bytes) (ahead taken : List Message) (connection : Nat)
    (network : Network π) : Prop where
  line : ∃ line, network.openLine? connection = some line ∧ line.turns = [] ∧
    (line.arrivals ≠ [] → .commandComplete ∈ taken)
  waits : waiting network.peer connection = ahead.map Message.encode

/-- The line of an upload, with the store somewhere within what was sent there. -/
def Underway (store : π → ObjectStore) (waiting : π → Nat → List Bytes) (before : ObjectStore)
    (request : PutRequest) (sent : Bytes) (isEnded : Bool) (connection : Nat)
    (network : Network π) : Prop :=
  ∃ ahead taken, Awaits waiting ahead taken connection network ∧
    Intake before request sent isEnded connection ahead taken (store network.peer)

/-- The store has left its objects alone unless it has taken up the end of the upload, and then it
has stored what was sent. -/
def StoresWhole (before : ObjectStore) (request : PutRequest) (sent : Bytes) (isEnded : Bool)
    (store : ObjectStore) : Prop :=
  ∃ taken, store.requests = before.requests ++ taken ∧
    (.commandComplete ∉ taken → store.objects = before.objects) ∧
    (.commandComplete ∈ taken → isEnded = true ∧
      store.objects = insertInto request.remotePath sent before.objects)

/-- A call on a session that has failed and let go of it. -/
structure LetGo (store : π → ObjectStore) (before : ObjectStore) (request : PutRequest)
    (sent : Bytes) (isEnded : Bool) (connection : Nat) (outcome : Except ClientError Unit)
    (network : Network π) : Prop where
  error : ∃ error, outcome = .error error
  closed : network.openLine? connection = none
  stores : StoresWhole before request sent isEnded (store network.peer)

omit [Peer π] in
theorem Intake.storesWhole {ahead taken : List Message} {reached : ObjectStore}
    (intake : Intake before request sent isEnded connection ahead taken reached) :
    StoresWhole before request sent isEnded reached := by
  obtain ⟨_, requests, _, _, stage⟩ := intake
  exact ⟨taken, requests, stage.objects_of_unended, stage.objects_of_ended⟩

omit [Peer π] in
theorem storesWhole_refl (before : ObjectStore) (request : PutRequest) (sent : Bytes)
    (isEnded : Bool) : StoresWhole before request sent isEnded before := by
  refine ⟨[], (List.append_nil _).symm, fun _ => rfl, ?_⟩
  intro impossible
  cases impossible

omit [Peer π] in
/-- Before the end is sent, what was sent is of no account. -/
theorem StoresWhole.of_unended {reached : ObjectStore}
    (stores : StoresWhole before request sent false reached) {other : Bytes} {isEnded : Bool} :
    StoresWhole before request other isEnded reached := by
  obtain ⟨taken, requests, unended, ended⟩ := stores
  refine ⟨taken, requests, unended, ?_⟩
  intro impossible
  cases (ended impossible).1

section

variable (passes : PassesTo store waiting) {ahead further taken : List Message}
include passes

/-- A message is sent, or the store is known to have hung up. -/
theorem send_underway {message : Message} (awaits : Awaits waiting ahead taken connection network)
    (intake : Intake before request sent isEnded connection (ahead ++ [message]) taken
      (store network.peer))
    {outcome : Except IoError Unit}
    (told : network.send connection message.encode = (outcome, later)) :
    (outcome = .ok () ∧ Underway store waiting before request sent isEnded connection later) ∨
      outcome = .error .brokenPipe ∧ later = network := by
  obtain ⟨⟨line, found, turns, quiet⟩, waits⟩ := awaits
  have nonempty := message.encode_ne_nil
  cases gone : line.hungUp with
  | true =>
    rw [Network.send_of_hungUp found nonempty gone] at told
    cases told
    exact .inr ⟨rfl, rfl⟩
  | false =>
    cases heard : Peer.hear connection message.encode network.peer with | mk reaction peer =>
    have whole := Network.send_of_no_turns found nonempty gone turns
    rw [heard] at whole
    rw [whole] at told
    cases told
    obtain ⟨pieces, split, took⟩ := passes.hearing heard
    rw [waits, ← List.map_singleton, ← List.map_append] at split
    obtain ⟨messages, left, same, rfl, rest⟩ := List.map_eq_append_iff.mp split
    rw [same] at intake
    obtain ⟨more, next, replied⟩ := intake.takeUp took
    have held := (Network.openLine?_eq_some_iff.mp found).2
    have opened : Network.openLine? connection { network with peer } = some line := found
    refine .inl ⟨rfl, left, taken ++ more, ⟨⟨_, Network.openLine?_setLine opened held, turns, ?_⟩,
      rest.symm⟩, next⟩
    intro arrived
    by_cases silent : line.arrivals = []
    · apply replied
      intro nothing
      apply arrived
      rw [Line.react, silent, nothing]
      rfl
    · exact List.mem_append_left more (quiet silent)

/-- Letting go leaves the store somewhere within what was sent. -/
theorem release_intake (waits : waiting network.peer connection = ahead.map Message.encode)
    (intake : Intake before request sent isEnded connection (ahead ++ further) taken
      (store network.peer)) :
    ∃ left more, Intake before request sent isEnded connection left (taken ++ more)
      (store (network.release connection).peer) := by
  rcases (network.release_cases connection).2 with untouched | told
  · rw [untouched]
    refine ⟨ahead ++ further, [], ?_⟩
    rw [List.append_nil]
    exact intake
  · rw [told]
    obtain ⟨pieces, left, split, reached⟩ := passes.releasing connection network.peer
    rw [waits] at split
    obtain ⟨messages, rest, rfl, rfl, rfl⟩ := List.map_eq_append_iff.mp split
    rw [List.append_assoc] at intake
    obtain ⟨more, next, _⟩ := intake.takeUp
      (rfl : (store network.peer).takeUp connection (messages.map Message.encode) = _)
    rcases reached with same | released
    · rw [same]
      exact ⟨rest ++ further, more, next⟩
    · rw [released]
      exact ⟨rest ++ further, more, next.release⟩

theorem Underway.release
    (underway : Underway store waiting before request sent isEnded connection network) :
    StoresWhole before request sent isEnded (store (network.release connection).peer) := by
  obtain ⟨ahead, taken, awaits, intake⟩ := underway
  rw [← List.append_nil ahead] at intake
  obtain ⟨_, _, last⟩ := release_intake passes awaits.waits intake
  exact last.storesWhole

/-! ### Sessions -/

variable {session : Session} {action : String} {outcome : Except ClientError Unit}

/-- A frame goes out, or the session is let go of. -/
theorem session_send_underway {message : Message}
    (awaits : Awaits waiting ahead taken session.connection network)
    (intake : Intake before request sent isEnded session.connection (ahead ++ [message]) taken
      (store network.peer))
    (told : session.send message.encode action network = (outcome, later)) :
    (outcome = .ok () ∧
        Underway store waiting before request sent isEnded session.connection later) ∨
      LetGo store before request sent isEnded session.connection outcome later := by
  cases result : network.send session.connection message.encode with | mk answer middle =>
  rw [Session.send, result] at told
  rcases send_underway passes awaits intake result with ⟨rfl, underway⟩ | ⟨rfl, rfl⟩
  · cases told
    exact .inl ⟨rfl, underway⟩
  · cases told
    obtain ⟨_, _, last⟩ := release_intake passes awaits.waits intake
    exact .inr ⟨⟨_, rfl⟩, Network.openLine?_release _ _, last.storesWhole⟩

/-- A connection on which nothing was sent yet, for an announcement that is to be sent. -/
theorem connect_underway (matched : (store network.peer).lines.length = network.lines.length)
    {disk : Disk} {socket : String} {outcome : Except IoError Nat}
    (understands : UnderstandsUpload request)
    (connected : network.connect disk socket = (outcome, later)) :
    (outcome = .ok network.lines.length ∧ Awaits waiting [] [] network.lines.length later ∧
        Intake (store network.peer) request [] false network.lines.length [.put request] []
          (store later.peer)) ∨
      ∃ error, outcome = .error error ∧ store later.peer = store network.peer := by
  cases outcome with
  | error error =>
    refine .inr ⟨error, rfl, ?_⟩
    rcases Network.connect_eq_error connected with rfl | ⟨peer, declined, rfl⟩
    · rfl
    · exact passes.declining declined
  | ok connection =>
    obtain ⟨opening, peer, accepted, rfl, rfl⟩ := Network.connect_eq_ok connected
    obtain ⟨turns, arrivals, waits, taken, opened⟩ := passes.accepting accepted
    obtain ⟨_, _, _, same⟩ := accept_eq_ok opened
    have quiet : opening.reaction.arrivals ≠ [] → Message.commandComplete ∈ ([] : List Message) :=
      fun arrived => absurd arrivals arrived
    refine .inl ⟨rfl, ⟨⟨_, Network.openLine?_connected network opening peer, turns, quiet⟩, waits⟩,
      ?_⟩
    dsimp only
    rw [same]
    refine ⟨?_, ?_, firstServing (store network.peer).faults.head?, ?_, ?_⟩
    · intro message listed
      rw [List.mem_singleton.mp listed]
      exact ⟨understands.free, understands.within⟩
    · exact (List.append_nil _).symm
    · rw [← matched]
      exact List.getElem?_concat_length
    · by_cases finished : firstServing (store network.peer).faults.head? = .finished
      · rw [finished]
        exact .brokenOff List.not_mem_nil
      · rw [firstServing_eq_opening finished]
        have nothing : ([] : List Bytes).flatten = [] := rfl
        exact .announced nothing

/-- An announcement is the beginning of an upload, or the store has taken up no end of it. -/
theorem announce_underway (matched : (store network.peer).lines.length = network.lines.length)
    {upload : Upload} {disk : Disk} {outcome : Except ClientError Session}
    (understands : UnderstandsUpload upload.announcement)
    (announced : upload.announce disk network = (outcome, later)) :
    (∃ session, outcome = .ok session ∧ Underway store waiting (store network.peer)
        upload.announcement [] false session.connection later) ∨
      ∃ error, outcome = .error error ∧
        StoresWhole (store network.peer) upload.announcement [] false (store later.peer) := by
  cases connected : network.connect disk upload.config.socketPath with | mk result middle =>
  rcases connect_underway passes matched understands connected with
    ⟨rfl, awaits, intake⟩ | ⟨error, rfl, same⟩
  · let session : Session := ⟨upload.config.socketPath, upload.remotePath, network.lines.length⟩
    cases sent : session.send (Message.put upload.announcement).encode "starting upload" middle with
    | mk answer last =>
    have made : Session.connect disk upload.config.socketPath upload.remotePath network =
        (.ok session, middle) := by
      rw [Session.connect, connected]
    rw [Upload.announce, made] at announced
    dsimp only at announced
    rw [sent] at announced
    rw [← List.nil_append [_]] at intake
    rcases session_send_underway passes awaits intake sent with
      ⟨rfl, underway⟩ | ⟨⟨error, rfl⟩, _, stores⟩
    · cases announced
      exact .inl ⟨session, rfl, underway⟩
    · cases announced
      exact .inr ⟨error, rfl, stores⟩
  · simp only [Upload.announce, Session.connect, connected] at announced
    cases announced
    refine .inr ⟨_, rfl, ?_⟩
    rw [same]
    exact storesWhole_refl _ _ _ _

/-- The store has come to the end of the upload on a line. -/
def Acknowledges (store : π → ObjectStore) (waiting : π → Nat → List Bytes) (before : ObjectStore)
    (request : PutRequest) (sent : Bytes) (connection : Nat) (network : Network π) : Prop :=
  ∃ ahead taken, waiting network.peer connection = ahead.map Message.encode ∧
    Intake before request sent true connection ahead taken (store network.peer) ∧
    .commandComplete ∈ taken

/-- The acknowledgement comes from a store that has come to the end; without it, the store may be
anywhere. -/
theorem expectReady_underway
    (underway : Underway store waiting before request sent true session.connection network)
    (answered : session.expectReady action network = (outcome, later)) :
    (outcome = .ok () ∧
        Acknowledges store waiting before request sent session.connection later) ∨
      LetGo store before request sent true session.connection outcome later := by
  obtain ⟨ahead, taken, ⟨⟨line, found, turns, quiet⟩, waits⟩, intake⟩ := id underway
  let left := network.setLine session.connection
    { line with arrivals := (Wire.readMessage line.arrivals).2 }
  have gone : StoresWhole before request sent true (store (session.close left).peer) := by
    rw [← List.append_nil ahead] at intake
    have heard : waiting left.peer session.connection = ahead.map Message.encode := waits
    obtain ⟨_, _, last⟩ := release_intake passes heard intake
    exact last.storesWhole
  rw [Session.expectReady, Session.receive, Network.receive_of_open found] at answered
  cases read : (Wire.readMessage line.arrivals).1 with
  | error error =>
    rw [read] at answered
    cases answered
    exact .inr ⟨⟨_, rfl⟩, Network.openLine?_release _ _, gone⟩
  | ok message =>
    rw [read] at answered
    cases message with
    | readyForQuery =>
      cases answered
      refine .inl ⟨rfl, ahead, taken, waits, intake, quiet ?_⟩
      intro silent
      rw [silent] at read
      cases read
    | _ =>
      cases answered
      exact .inr ⟨⟨_, rfl⟩, Network.openLine?_release _ _, gone⟩

/-- An upload that is acknowledged is stored; one that is not may be. -/
theorem complete_underway
    (underway : Underway store waiting before request sent false session.connection network)
    (completed : session.complete action network = (outcome, later)) :
    (outcome = .ok () ∧
        Acknowledges store waiting before request sent session.connection later) ∨
      LetGo store before request sent true session.connection outcome later := by
  obtain ⟨ahead, taken, awaits, intake⟩ := underway
  cases told : session.send Message.commandComplete.encode action network with | mk answer middle =>
  rw [Session.complete, told] at completed
  rcases session_send_underway passes awaits intake.close told with
    ⟨rfl, ended⟩ | ⟨⟨error, rfl⟩, closed, stores⟩
  · exact expectReady_underway passes ended completed
  · cases completed
    exact .inr ⟨⟨error, rfl⟩, closed, stores⟩

end

/-! ### Calls on an upload -/

/-- An upload to which more can be written: nothing was done for it yet, or it is under way. -/
inductive Ready (store : π → ObjectStore) (waiting : π → Nat → List Bytes) (begun : Network π)
    (request : PutRequest) : (sent : Bytes) → UploadPhase → Network π → Prop
  | pending : Ready store waiting begun request [] .pending begun
  | opened {sent : Bytes} {session : Session} {network : Network π} :
    Underway store waiting (store begun.peer) request sent false session.connection network →
    Ready store waiting begun request sent (.opened session) network

omit [Peer π] in
theorem Ready.underway {begun : Network π} {session : Session}
    (ready : Ready store waiting begun request sent (.opened session) network) :
    Underway store waiting (store begun.peer) request sent false session.connection network := by
  cases ready with
  | opened underway => exact underway

/-- What a call makes of an upload to which more could be written: it is under way with so much, or
it has failed before its end. -/
inductive Goes (store : π → ObjectStore) (waiting : π → Nat → List Bytes) (begun : Network π)
    (request : PutRequest) (sent : Bytes) :
    Except ClientError Unit → UploadPhase → Network π → Prop
  | on {session : Session} {network : Network π} :
    Underway store waiting (store begun.peer) request sent false session.connection network →
    Goes store waiting begun request sent (.ok ()) (.opened session) network
  | breaks {error : ClientError} {network : Network π} :
    StoresWhole (store begun.peer) request sent false (store network.peer) →
    Goes store waiting begun request sent (.error error) .failed network

section

variable {begun : Network π} {upload after : Upload} {client left : Client π}
  {outcome : Except ClientError Unit}
  (passes : PassesTo store waiting)
include passes

theorem sendPiece_goes {session : Session} {data : Bytes}
    (opened : upload.phase = .opened session)
    (within : (Message.copyData data).encode.length ≤ Wire.maximumSize)
    (underway : Underway store waiting (store begun.peer) request sent false session.connection
      client.network)
    (wrote : upload.sendPiece data client = (outcome, after, left)) :
    Goes store waiting begun request (sent ++ data) outcome after.phase left.network := by
  obtain ⟨ahead, taken, awaits, intake⟩ := underway
  cases told : session.send (Message.copyData data).encode "uploading chunk data"
      client.network with
  | mk answer middle =>
  simp only [Upload.sendPiece, opened, told] at wrote
  rcases session_send_underway passes awaits (intake.piece within) told with
    ⟨rfl, further⟩ | ⟨⟨error, rfl⟩, closed, stores⟩
  · cases wrote
    exact .on further
  · simp only [Upload.giveUp, Upload.hangUp, opened, Session.close,
      Network.release_of_closed closed] at wrote
    cases wrote
    exact .breaks stores

/-- Closing an upload that is under way stores it whole or leaves the objects alone; when it goes
well, it is stored. -/
theorem close_underway {session : Session} (opened : upload.phase = .opened session)
    (underway : Underway store waiting (store begun.peer) request sent false session.connection
      client.network)
    (closed : upload.close client = (outcome, after, left)) :
    StoresWhole (store begun.peer) request sent true (store left.network.peer) ∧
      (outcome = .ok () ∧ after = { upload with phase := .closed } ∧
          (store left.network.peer).objects =
            insertInto request.remotePath sent (store begun.peer).objects ∨
        ∃ error, outcome = .error error ∧ after = { upload with phase := .failed }) := by
  cases completed : session.complete "finishing upload" client.network with | mk answer middle =>
  simp only [Upload.close, opened, completed] at closed
  rcases complete_underway passes underway completed with
    ⟨rfl, ahead, taken, waits, intake, ended⟩ | ⟨⟨error, rfl⟩, gone, stores⟩
  · simp only [Upload.hangUp, opened] at closed
    cases closed
    rw [← List.append_nil ahead] at intake
    obtain ⟨rest, more, last⟩ := release_intake passes waits intake
    obtain ⟨_, _, serving, _, stage⟩ := id last
    have stored := stage.objects_of_ended (List.mem_append_left more ended)
    exact ⟨last.storesWhole, .inl ⟨rfl, rfl, stored.2⟩⟩
  · simp only [Upload.giveUp, Upload.hangUp, opened, Session.close,
      Network.release_of_closed gone] at closed
    cases closed
    exact ⟨stores, .inr ⟨error, rfl, rfl⟩⟩

/-- An upload that is dropped is left where it is. -/
theorem abandon_underway {session : Session} (opened : upload.phase = .opened session)
    (underway : Underway store waiting (store begun.peer) request sent false session.connection
      client.network) :
    StoresWhole (store begun.peer) request sent false
      (store (upload.abandon client).network.peer) := by
  simp only [Upload.abandon, Upload.hangUp, opened]
  exact underway.release passes

section

variable (matched : (store begun.peer).lines.length = begun.lines.length)
  (announces : upload.announcement = request) (understands : UnderstandsUpload request)
  (ready : Ready store waiting begun request sent upload.phase client.network)
include matched announces understands ready

theorem start_goes {disk : Disk} (started : upload.start disk client = (outcome, after, left)) :
    Goes store waiting begun request sent outcome after.phase left.network := by
  cases phase : upload.phase with
  | pending =>
    rw [phase] at ready
    generalize held : client.network = network at ready
    cases ready
    cases announced : upload.announce disk client.network with | mk result middle =>
    simp only [Upload.start, phase, announced] at started
    rw [held] at announced
    rw [← announces] at understands ⊢
    rcases announce_underway passes matched understands announced with
      ⟨session, rfl, underway⟩ | ⟨error, rfl, kept⟩
    · cases started
      exact .on underway
    · simp only [Upload.giveUp, Upload.hangUp, phase] at started
      cases started
      exact .breaks kept
  | opened session =>
    rw [phase] at ready
    cases ready with
    | opened underway =>
      simp only [Upload.start, phase] at started
      cases started
      rw [phase]
      exact .on underway
  | closed =>
    rw [phase] at ready
    cases ready
  | failed =>
    rw [phase] at ready
    cases ready

theorem write_goes {data : Bytes} {disk : Disk}
    (within : (Message.copyData data).encode.length ≤ Wire.maximumSize)
    (wrote : upload.write data disk client = (outcome, after, left)) :
    Goes store waiting begun request (sent ++ data) outcome after.phase left.network := by
  cases started : upload.start disk client with | mk result rest =>
  obtain ⟨middle, held⟩ := rest
  have goes := start_goes passes matched announces understands ready started
  rw [Upload.write, started] at wrote
  generalize reached : middle.phase = phase at goes
  generalize stands : held.network = network at goes
  cases goes with
  | on underway =>
    dsimp only at wrote
    split at wrote
    · rename_i nothing
      cases wrote
      rw [List.isEmpty_iff.mp nothing, List.append_nil, reached, stands]
      exact .on underway
    · rw [← stands] at underway
      exact sendPiece_goes passes reached within underway wrote
  | breaks kept =>
    cases wrote
    rw [reached, stands]
    exact .breaks kept.of_unended

end

end

end ObjectStore

end SegmentOffload
