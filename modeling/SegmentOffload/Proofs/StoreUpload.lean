import SegmentOffload.Proofs.StoreAnswers
import SegmentOffload.Upload

/-!
What the store in memory makes of an upload.

As long as an upload is not complete the objects are as they were, however it is broken off.  Once
it is complete there is one object more or one object replaced, at the path of the upload and with
the bytes that were sent; whether the client learns of that is another matter.
-/

namespace SegmentOffload

open Wire (Message PutRequest)

namespace ObjectStore

/-! ### Objects -/

theorem find?_cons_path (path : String) (first : String × Bytes) (rest : List (String × Bytes)) :
    (first :: rest).find? (fun object => object.1 == path) =
      if first.1 = path then some first else rest.find? fun object => object.1 == path := by
  by_cases here : first.1 = path
  · rw [if_pos here, List.find?_cons, here, beq_self_eq_true]
  · have apart : (first.1 == path) = false := by
      rw [beq_eq_false_iff_ne]
      exact here
    rw [if_neg here, List.find?_cons, apart]

theorem find?_insertInto_self (path : String) (data : Bytes) (objects : List (String × Bytes)) :
    (insertInto path data objects).find? (fun object => object.1 == path) = some (path, data) := by
  induction objects with
  | nil => rw [insertInto, find?_cons_path, if_pos rfl]
  | cons first rest ih =>
    unfold insertInto
    by_cases before : path < first.1
    · rw [if_pos before, find?_cons_path, if_pos rfl]
    · by_cases here : path = first.1
      · rw [if_neg before, if_pos here, find?_cons_path, if_pos rfl]
      · rw [if_neg before, if_neg here, find?_cons_path, if_neg (Ne.symm here)]
        exact ih

theorem find?_insertInto_of_ne {path other : String} (apart : other ≠ path) (data : Bytes)
    (objects : List (String × Bytes)) :
    (insertInto path data objects).find? (fun object => object.1 == other) =
      objects.find? (fun object => object.1 == other) := by
  induction objects with
  | nil => rw [insertInto, find?_cons_path, if_neg (Ne.symm apart)]
  | cons first rest ih =>
    unfold insertInto
    by_cases before : path < first.1
    · rw [if_pos before, find?_cons_path, if_neg (Ne.symm apart)]
    · by_cases here : path = first.1
      · have skipped : first.1 ≠ other := by
          rw [← here]
          exact Ne.symm apart
        rw [if_neg before, if_pos here, find?_cons_path, if_neg (Ne.symm apart), find?_cons_path,
          if_neg skipped]
      · rw [if_neg before, if_neg here, find?_cons_path, find?_cons_path, ih]

/-! ### The network of the store -/

/-- Client and store have the same connections, and the store has the given objects. -/
structure Holds (objects : List (String × Bytes)) (network : Network ObjectStore) : Prop where
  matched : network.peer.lines.length = network.lines.length
  objects : network.peer.objects = objects

variable {objects : List (String × Bytes)} {network later : Network ObjectStore}

theorem Holds.release (holds : Holds objects network) (connection : Nat) :
    Holds objects (network.release connection) := by
  obtain ⟨count, untouched | told⟩ := network.release_cases connection
  · constructor
    · rw [count, untouched]
      exact holds.matched
    · rw [untouched]
      exact holds.objects
  · constructor
    · rw [count, told]
      exact List.length_set.trans holds.matched
    · rw [told]
      exact holds.objects

/-- An upload is under way: the store has taken what was sent, or it has hung up. -/
structure Uploading (objects : List (String × Bytes)) (request : PutRequest) (sent : Bytes)
    (connection : Nat) (network : Network ObjectStore) : Prop extends Holds objects network where
  line : ∃ line, network.openLine? connection = some line ∧ line.turns = [] ∧
    (line.hungUp = true ∨ line.hungUp = false ∧ ∃ fault,
      network.peer.lines[connection]? = some ⟨[], .uploading request sent fault⟩)

/-- A whole message over a line without turns ahead is served at once. -/
theorem send_encode_eq {message : Message} {serving : Serving} {connection : Nat} {line : Line}
    (free : message.IsNulFree) (within : message.encode.length ≤ Wire.maximumSize)
    (listening : serving ≠ .finished)
    (found : network.openLine? connection = some line) (there : line.hungUp = false)
    (turns : line.turns = [])
    (heard : network.peer.lines[connection]? = some ⟨[], serving⟩) :
    let service := serve message serving network.peer
    let peer := { service.store with
      lines := network.peer.lines.set connection ⟨[], service.serving⟩ }
    network.send connection message.encode = (.ok (), { network with peer }.setLine connection
      ({ line with pieces := message.encode :: line.pieces }.react service.reaction)) := by
  intro service peer
  have served := hear_encode free within listening heard
  change Peer.hear connection message.encode network.peer = _ at served
  have whole := Network.send_of_no_turns found message.encode_ne_nil there turns
  rw [served, lines_serve] at whole
  exact whole

theorem send_encode {message : Message} {serving : Serving} {connection : Nat} {line : Line}
    (free : message.IsNulFree) (within : message.encode.length ≤ Wire.maximumSize)
    (listening : serving ≠ .finished)
    (found : network.openLine? connection = some line) (there : line.hungUp = false)
    (turns : line.turns = [])
    (heard : network.peer.lines[connection]? = some ⟨[], serving⟩)
    (matched : network.peer.lines.length = network.lines.length)
    {outcome : Except IoError Unit}
    (sent : network.send connection message.encode = (outcome, later)) :
    let service := serve message serving network.peer
    outcome = .ok () ∧ later.peer.objects = service.store.objects ∧
      later.peer.lines.length = later.lines.length ∧
      later.peer.lines[connection]? = some ⟨[], service.serving⟩ ∧
      ∃ written, later.openLine? connection = some written ∧ written.turns = [] ∧
        written.hungUp = decide (service.serving = .finished) := by
  intro service
  have held := (Network.openLine?_eq_some_iff.mp found).2
  have inside : connection < network.peer.lines.length :=
    (List.getElem?_eq_some_iff.mp heard).1
  rw [send_encode_eq free within listening found there turns heard] at sent
  cases sent
  have opened : Network.openLine? connection { network with peer := _ } = some line := found
  refine ⟨rfl, rfl, ?_, ?_, _, Network.openLine?_setLine opened held, turns, ?_⟩
  · rw [Network.lines_setLine, List.length_set]
    exact List.length_set.trans matched
  · rw [Network.peer_setLine]
    exact List.getElem?_set_self inside
  · rw [Line.react]
    simp only [there, Bool.false_or]
    rfl

/-! ### The steps of an upload -/

theorem connect_spec (holds : Holds objects network) {disk : Disk} {socket : String}
    {outcome : Except IoError Nat} (connected : network.connect disk socket = (outcome, later)) :
    Holds objects later ∧ ∀ connection, outcome = .ok connection →
      ∃ line fault, later.openLine? connection = some line ∧ line.turns = [] ∧
        line.hungUp = decide (firstServing fault = .finished) ∧
        later.peer.lines[connection]? = some ⟨[], firstServing fault⟩ := by
  cases outcome with
  | error error =>
    constructor
    · rcases Network.connect_eq_error connected with same | ⟨peer, declined, same⟩
      · rw [same]
        exact holds
      · change ObjectStore.accept _ = _ at declined
        rw [same, accept_eq_error declined]
        exact holds
    · intro connection impossible
      cases impossible
  | ok connection =>
    obtain ⟨opening, peer, accepted, rfl, rfl⟩ := Network.connect_eq_ok connected
    obtain ⟨turns, _, hangsUp, rfl⟩ := accept_eq_ok accepted
    constructor
    · constructor
      · rw [List.length_append, List.length_append, holds.matched]
        rfl
      · exact holds.objects
    · intro connection same
      cases same
      refine ⟨_, _, Network.openLine?_connected network opening _, turns, hangsUp, ?_⟩
      rw [← holds.matched]
      exact List.getElem?_concat_length

/-- What it takes for the store to understand an announcement. -/
structure UnderstandsUpload (request : PutRequest) : Prop where
  free : (Message.put request).IsNulFree
  within : (Message.put request).encode.length ≤ Wire.maximumSize

/-- An announcement begins an upload of which nothing was sent, or leaves the objects alone. -/
theorem announce_spec {upload : Upload} (understands : UnderstandsUpload upload.announcement)
    (holds : Holds objects network) {disk : Disk} {outcome : Except ClientError Session}
    (announced : upload.announce disk network = (outcome, later)) :
    Holds objects later ∧ ∀ session, outcome = .ok session →
      Uploading objects upload.announcement [] session.connection later := by
  cases connected : network.connect disk upload.config.socketPath with
  | mk result middle =>
    obtain ⟨connectedHolds, opened⟩ := connect_spec holds connected
    cases result with
    | error error =>
      simp only [Upload.announce, Session.connect, connected] at announced
      cases announced
      refine ⟨connectedHolds, ?_⟩
      intro session impossible
      cases impossible
    | ok connection =>
      obtain ⟨line, fault, found, turns, hungUp, heard⟩ := opened connection rfl
      cases sent : middle.send connection (Message.put upload.announcement).encode with
      | mk result last =>
        by_cases finished : firstServing fault = .finished
        · have gone : line.hungUp = true := by
            rw [hungUp]
            exact decide_eq_true finished
          have nothing := Network.send_of_hungUp found
            (Message.encode_ne_nil (.put upload.announcement)) gone
          rw [nothing] at sent
          cases sent
          simp only [Upload.announce, Session.connect, connected, Session.send, nothing]
            at announced
          cases announced
          refine ⟨connectedHolds.release _, ?_⟩
          intro session impossible
          cases impossible
        · rw [decide_eq_false finished] at hungUp
          obtain ⟨rfl, kept, count, uploading, written, held, free, there⟩ :=
            send_encode understands.free understands.within finished found hungUp turns heard
              connectedHolds.matched sent
          simp only [Upload.announce, Session.connect, connected, Session.send, sent] at announced
          cases announced
          rw [firstServing_eq_opening finished] at kept uploading there
          have announcedHolds : Holds objects later := ⟨count, kept.trans connectedHolds.objects⟩
          refine ⟨announcedHolds, ?_⟩
          intro session made
          cases made
          exact ⟨announcedHolds, written, held, free, Or.inr ⟨there, fault, uploading⟩⟩

/-- A piece of data is taken, or the upload is broken off and the objects are left alone. -/
theorem sendPiece_spec {request : PutRequest} {sent data : Bytes} {session : Session}
    {action : String} (within : (Message.copyData data).encode.length ≤ Wire.maximumSize)
    (uploading : Uploading objects request sent session.connection network)
    {outcome : Except ClientError Unit}
    (told : session.send (Message.copyData data).encode action network = (outcome, later)) :
    Holds objects later ∧
      (outcome = .ok () → Uploading objects request (sent ++ data) session.connection later) := by
  obtain ⟨line, found, turns, gone | ⟨there, fault, heard⟩⟩ := uploading.line
  · have nothing := Network.send_of_hungUp found (Message.encode_ne_nil (.copyData data)) gone
    simp only [Session.send, nothing] at told
    cases told
    refine ⟨uploading.toHolds.release _, ?_⟩
    intro impossible
    cases impossible
  · cases result : network.send session.connection (Message.copyData data).encode with
    | mk answer last =>
      have listening : Serving.uploading request sent fault ≠ .finished := by
        intro impossible
        cases impossible
      have clean : (Message.copyData data).IsNulFree := trivial
      obtain ⟨rfl, kept, count, left, written, held, free, hungUp⟩ :=
        send_encode clean within listening found there turns heard uploading.matched result
      simp only [Session.send, result] at told
      cases told
      by_cases cut : cutsUpload fault (sent ++ data).length = true
      · simp only [serve, serveUpload, cut, if_true, refuse] at kept hungUp
        have holds : Holds objects later := ⟨count, kept.trans uploading.objects⟩
        exact ⟨holds, fun _ => ⟨holds, written, held, free, Or.inl hungUp⟩⟩
      · rw [Bool.not_eq_true] at cut
        simp only [serve, serveUpload, cut, Bool.false_eq_true, if_false] at kept left hungUp
        have holds : Holds objects later := ⟨count, kept.trans uploading.objects⟩
        exact ⟨holds, fun _ => ⟨holds, written, held, free, Or.inr ⟨hungUp, fault, left⟩⟩⟩

theorem expectReady_holds {session : Session} {action : String}
    (holds : Holds objects network) {outcome : Except ClientError Unit}
    (waited : session.expectReady action network = (outcome, later)) : Holds objects later := by
  cases received : network.receive session.connection with
  | mk answer middle =>
    obtain ⟨samePeer, sameCount⟩ := Network.receive_cases received
    have kept : Holds objects middle := by
      constructor
      · rw [samePeer, sameCount]
        exact holds.matched
      · rw [samePeer]
        exact holds.objects
    cases answer with
    | error error =>
      simp only [Session.expectReady, Session.receive, received] at waited
      cases waited
      exact kept.release _
    | ok message =>
      cases message with
      | readyForQuery =>
        simp only [Session.expectReady, Session.receive, received] at waited
        cases waited
        exact kept
      | _ =>
        simp only [Session.expectReady, Session.receive, received] at waited
        cases waited
        exact kept.release _

/-- Completing an upload stores what was sent, or leaves the objects alone; when the store
acknowledges, it has stored. -/
theorem complete_spec {request : PutRequest} {sent : Bytes} {session : Session} {action : String}
    (uploading : Uploading objects request sent session.connection network)
    {outcome : Except ClientError Unit}
    (completed : session.complete action network = (outcome, later)) :
    Holds (insertInto request.remotePath sent objects) later ∨
      Holds objects later ∧ outcome ≠ .ok () := by
  obtain ⟨line, found, turns, gone | ⟨there, fault, heard⟩⟩ := uploading.line
  · have nothing := Network.send_of_hungUp found (Message.encode_ne_nil .commandComplete) gone
    simp only [Session.complete, Session.send, nothing] at completed
    cases completed
    refine Or.inr ⟨uploading.toHolds.release _, ?_⟩
    intro impossible
    cases impossible
  · cases result : network.send session.connection Message.commandComplete.encode with
    | mk answer last =>
      have listening : Serving.uploading request sent fault ≠ .finished := by
        intro impossible
        cases impossible
      have clean : Message.commandComplete.IsNulFree := trivial
      have within : Message.commandComplete.encode.length ≤ Wire.maximumSize := by decide
      obtain ⟨rfl, kept, count, _⟩ :=
        send_encode clean within listening found there turns heard uploading.matched result
      simp only [Session.complete, Session.send, result] at completed
      have stored : Holds (insertInto request.remotePath sent objects) last := by
        refine ⟨count, kept.trans ?_⟩
        rw [← uploading.objects]
        rfl
      exact Or.inl (expectReady_holds stored completed)

end ObjectStore

end SegmentOffload
