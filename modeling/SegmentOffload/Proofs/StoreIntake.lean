import SegmentOffload.Peer.PacedStore
import SegmentOffload.Proofs.StoreUpload

/-!
What a store makes of an upload that it takes up bit by bit.

Behind a peer may be a store that hears later what the peer has accepted already.  At any moment the
store stands somewhere within the upload: the messages that it has taken up are behind it, and those
that wait are ahead.  Its objects change with the end of the upload and not before, and then by the
whole upload.
-/

namespace SegmentOffload

open Wire (Message PutRequest)

namespace ObjectStore

/-! ### Stores behind peers -/

section

variable {π : Type} [Peer π]

/-- The peer is a store that takes up what it hears on each connection in order and piece by piece,
now or later. -/
structure PassesTo (store : π → ObjectStore) (waiting : π → Nat → List Bytes) : Prop where
  declining : ∀ {count : Nat} {peer later : π} {error : IoError},
    Peer.accept count peer = (.error error, later) → store later = store peer
  accepting : ∀ {count : Nat} {peer later : π} {opening : Opening},
    Peer.accept count peer = (.ok opening, later) →
    opening.turns = [] ∧ opening.reaction.arrivals = [] ∧ waiting later count = [] ∧
      ∃ taken, (store peer).accept = (.ok taken, store later)
  hearing : ∀ {connection : Nat} {data : Bytes} {peer later : π} {reaction : Reaction},
    Peer.hear connection data peer = (reaction, later) →
    ∃ taken, waiting peer connection ++ [data] = taken ++ waiting later connection ∧
      (store peer).takeUp connection taken = (reaction, store later)
  releasing : ∀ (connection : Nat) (peer : π),
    ∃ taken left, waiting peer connection = taken ++ left ∧
      let reached := ((store peer).takeUp connection taken).2
      store (Peer.release connection peer) = reached ∨
        store (Peer.release connection peer) = reached.release connection

end

theorem takeUp_singleton (connection : Nat) (data : Bytes) (store : ObjectStore) :
    store.takeUp connection [data] = store.hear connection data := by
  simp only [takeUp, Reaction.silence, List.append_nil, Bool.or_false]

/-- The store itself is never behind. -/
theorem passesTo_self : PassesTo (fun store : ObjectStore => store) (fun _ _ => []) where
  declining := accept_eq_error
  accepting := by
    intro count peer later opening accepted
    obtain ⟨turns, arrivals, _⟩ := accept_eq_ok accepted
    exact ⟨turns, arrivals, rfl, opening, accepted⟩
  hearing := by
    intro connection data peer later reaction heard
    refine ⟨[data], rfl, ?_⟩
    rw [takeUp_singleton]
    exact heard
  releasing := by
    intro connection peer
    exact ⟨[], [], rfl, .inr rfl⟩

end ObjectStore

namespace PacedStore

open ObjectStore (PassesTo)

theorem proceed_spec {connection : Nat} {pieces : List Bytes} {paced later : PacedStore}
    {reaction : Reaction} (proceeds : paced.proceed connection pieces = (reaction, later)) :
    ∃ taken, pieces = taken ++ later.waiting connection ∧
      paced.store.takeUp connection taken = (reaction, later.store) := by
  cases proceeds
  refine ⟨pieces.take (paced.pace.headD pieces.length), ?_, rfl⟩
  change pieces = _ ++ if connection = connection then _ else _
  rw [if_pos rfl, List.take_append_drop]

theorem passesTo_store : PassesTo PacedStore.store PacedStore.waiting where
  declining := by
    intro count peer later error declined
    change peer.accept count = _ at declined
    unfold accept at declined
    split at declined
    · rename_i refused
      cases declined
      exact ObjectStore.accept_eq_error refused
    · cases declined
  accepting := by
    intro count peer later opening accepted
    change peer.accept count = _ at accepted
    unfold accept at accepted
    split at accepted
    · cases accepted
    · rename_i taken store opened
      cases accepted
      obtain ⟨turns, arrivals, _⟩ := ObjectStore.accept_eq_ok opened
      refine ⟨turns, ?_, if_pos rfl, taken, opened⟩
      dsimp only
      split
      · rfl
      · exact arrivals
  hearing := proceed_spec
  releasing := by
    intro connection peer
    obtain ⟨taken, split, took⟩ := proceed_spec
      (rfl : peer.proceed connection (peer.waiting connection) = _)
    refine ⟨taken, _, split, ?_⟩
    rw [took]
    change (peer.release connection).store = _ ∨ (peer.release connection).store = _
    unfold release
    dsimp only
    split
    · exact .inr rfl
    · exact .inl rfl

theorem setWaiting_nil (connection : Nat) (store : ObjectStore) :
    (ofStore store []).setWaiting connection [] = ofStore store [] := by
  rw [setWaiting, ofStore]
  congr 1
  funext other
  exact ite_self []

/-- Without a pace, and with nothing that waits, it is the store itself. -/
theorem ofStore_prompt (connection : Nat) (data : Bytes) (store : ObjectStore) :
    (ofStore store []).accept connection = (store.accept.1, ofStore store.accept.2 []) ∧
    (ofStore store []).hear connection data =
      ((store.hear connection data).1, ofStore (store.hear connection data).2 []) ∧
    (ofStore store []).release connection = ofStore (store.release connection) [] := by
  refine ⟨?_, ?_, ?_⟩
  · unfold accept ofStore
    dsimp only
    cases store.accept with
    | mk outcome later =>
      cases outcome with
      | error error => rfl
      | ok opening => exact congrArg (Prod.mk (Except.ok opening)) (setWaiting_nil connection later)
  · change ((store.takeUp connection [data]).1,
      (ofStore (store.takeUp connection [data]).2 []).setWaiting connection []) = _
    rw [ObjectStore.takeUp_singleton, setWaiting_nil]
  · have proceeds : (ofStore store []).proceed connection [] = (.silence, ofStore store []) :=
      congrArg (Prod.mk _) (setWaiting_nil connection store)
    have waits : (ofStore store []).waiting connection = [] := rfl
    unfold release
    rw [waits, proceeds]
    rfl

end PacedStore

namespace ObjectStore

/-! ### Within an upload -/

/-- The end of an upload, when it has been sent. -/
def ending (isEnded : Bool) : List Message :=
  if isEnded then [.commandComplete] else []

/-- Where a store stands within an upload: what it makes of the line, the messages that wait, those
that it has taken up, and its objects. -/
inductive Stage (objects : List (String × Bytes)) (request : PutRequest) (sent : Bytes)
    (isEnded : Bool) :
    Serving → List Message → List Message → List (String × Bytes) → Prop
  | announced {fault : Option Fault} {pieces : List Bytes} : pieces.flatten = sent →
    Stage objects request sent isEnded (.opening fault)
      (.put request :: (pieces.map .copyData ++ ending isEnded)) [] objects
  | taking {fault : Option Fault} {received : Bytes} {pieces : List Bytes}
    {taken : List Message} : received ++ pieces.flatten = sent → .commandComplete ∉ taken →
    Stage objects request sent isEnded (.uploading request received fault)
      (pieces.map .copyData ++ ending isEnded) taken objects
  | brokenOff {ahead taken : List Message} : .commandComplete ∉ taken →
    Stage objects request sent isEnded .finished ahead taken objects
  | stored {ahead taken : List Message} : isEnded = true → .commandComplete ∈ taken →
    Stage objects request sent isEnded .finished ahead taken
      (insertInto request.remotePath sent objects)

/-- The store stands within an upload that is made on a connection, and can read what is ahead. -/
structure Intake (before : ObjectStore) (request : PutRequest) (sent : Bytes) (isEnded : Bool)
    (connection : Nat) (ahead taken : List Message) (store : ObjectStore) : Prop where
  legible : ∀ message ∈ ahead, message.IsNulFree ∧ message.encode.length ≤ Wire.maximumSize
  requests : store.requests = before.requests ++ taken
  stage : ∃ serving, store.lines[connection]? = some ⟨[], serving⟩ ∧
    Stage before.objects request sent isEnded serving ahead taken store.objects

section

variable {before store later : ObjectStore} {request : PutRequest} {sent : Bytes} {isEnded : Bool}
  {connection : Nat} {ahead taken left : List Message} {message : Message}

theorem Stage.objects_of_unended {serving : Serving} {objects reached : List (String × Bytes)}
    (stage : Stage objects request sent isEnded serving ahead taken reached)
    (unended : .commandComplete ∉ taken) : reached = objects := by
  cases stage with
  | stored _ ended => exact absurd ended unended
  | _ => rfl

theorem Stage.objects_of_ended {serving : Serving} {objects reached : List (String × Bytes)}
    (stage : Stage objects request sent isEnded serving ahead taken reached)
    (ended : .commandComplete ∈ taken) :
    isEnded = true ∧ reached = insertInto request.remotePath sent objects := by
  cases stage with
  | announced => cases ended
  | taking _ unended => exact absurd ended unended
  | brokenOff unended => exact absurd ended unended
  | stored sealed => exact ⟨sealed, rfl⟩

/-- The next message moves the store on, or breaks the upload off; only the end is answered. -/
theorem Stage.serve {serving : Serving} {objects reached : List (String × Bytes)}
    (stage : Stage objects request sent isEnded serving (message :: left) taken reached)
    (listening : serving ≠ .finished) (same : store.objects = reached) :
    let service := ObjectStore.serve message serving store
    service.store.requests = store.requests ++ [message] ∧
      Stage objects request sent isEnded service.serving left (taken ++ [message])
        service.store.objects ∧
      (service.replies ≠ [] → .commandComplete ∈ taken ++ [message]) := by
  intro service
  generalize known : message :: left = all at stage
  cases stage with
  | announced whole =>
    cases known
    refine ⟨rfl, ?_, fun replied => absurd rfl replied⟩
    change Stage _ _ _ _ (.uploading request [] _) _ _ store.objects
    rw [same]
    exact .taking whole (by simp)
  | @taking fault received pieces _ whole unended =>
    cases pieces with
    | nil =>
      cases isEnded with
      | false => cases known
      | true =>
        cases known
        refine ⟨rfl, ?_, fun _ => List.mem_concat_self⟩
        change Stage _ _ _ _ .finished _ _ (insertInto request.remotePath received store.objects)
        rw [List.flatten_nil, List.append_nil] at whole
        rw [same, whole]
        exact .stored rfl List.mem_concat_self
    | cons piece pieces =>
      cases known
      have still : Message.commandComplete ∉ taken ++ [.copyData piece] := by
        simp only [List.mem_append, unended, List.mem_singleton, reduceCtorEq, or_self,
          not_false_eq_true]
      by_cases cut : cutsUpload fault (received ++ piece).length = true
      · simp only [service, ObjectStore.serve, serveUpload, cut, if_true, refuse, same]
        exact ⟨trivial, .brokenOff still, fun replied => absurd rfl replied⟩
      · rw [Bool.not_eq_true] at cut
        simp only [service, ObjectStore.serve, serveUpload, cut, Bool.false_eq_true, if_false, same]
        refine ⟨trivial, .taking ?_ still, fun replied => absurd rfl replied⟩
        rw [List.flatten_cons, ← List.append_assoc] at whole
        exact whole
  | brokenOff => exact absurd rfl listening
  | stored => exact absurd rfl listening

/-- One piece is taken up. -/
theorem Intake.hear {reaction : Reaction}
    (intake : Intake before request sent isEnded connection (message :: left) taken store)
    (heard : store.hear connection message.encode = (reaction, later)) :
    ∃ more, Intake before request sent isEnded connection left (taken ++ more) later ∧
      (reaction.arrivals ≠ [] → .commandComplete ∈ taken ++ more) := by
  obtain ⟨legible, requests, serving, found, stage⟩ := intake
  obtain ⟨⟨free, within⟩, others⟩ := List.forall_mem_cons.mp legible
  have inside := (List.getElem?_eq_some_iff.mp found).1
  by_cases finished : serving = .finished
  · -- nothing is heard any more, so nothing is ahead for this store either
    rw [finished] at found stage
    rw [hear_finished found] at heard
    cases heard
    refine ⟨[], ⟨others, ?_, .finished, List.getElem?_set_self inside, ?_⟩, fun replied =>
      absurd rfl replied⟩
    · rw [List.append_nil]
      exact requests
    · rw [List.append_nil]
      generalize store.objects = reached at stage
      cases stage with
      | brokenOff unended => exact .brokenOff unended
      | stored sealed ended => exact .stored sealed ended
  · have same : store.objects = store.objects := rfl
    obtain ⟨grown, next, replied⟩ := stage.serve finished same
    rw [hear_encode free within finished found] at heard
    cases heard
    refine ⟨[message], ⟨others, ?_, _, ?_, next⟩, ?_⟩
    · rw [← List.append_assoc, ← requests]
      exact grown
    · rw [lines_serve]
      exact List.getElem?_set_self inside
    · intro arrived
      apply replied
      intro silent
      apply arrived
      rw [Service.reaction, silent]
      rfl

/-- However many pieces are taken up, the store stands within the upload. -/
theorem Intake.takeUp {reaction : Reaction} {messages : List Message}
    (intake : Intake before request sent isEnded connection (messages ++ left) taken store)
    (took : store.takeUp connection (messages.map Message.encode) = (reaction, later)) :
    ∃ more, Intake before request sent isEnded connection left (taken ++ more) later ∧
      (reaction.arrivals ≠ [] → .commandComplete ∈ taken ++ more) := by
  induction messages generalizing store taken reaction with
  | nil =>
    cases took
    refine ⟨[], ?_, fun arrived => absurd rfl arrived⟩
    rw [List.append_nil]
    exact intake
  | cons message messages ih =>
    cases heard : store.hear connection message.encode with
    | mk first middle =>
      cases rest : middle.takeUp connection (messages.map Message.encode) with
      | mk others last =>
        rw [List.map_cons, ObjectStore.takeUp, heard] at took
        simp only [rest] at took
        cases took
        obtain ⟨more, next, replied⟩ := intake.hear heard
        obtain ⟨further, final, answered⟩ := ih next rest
        rw [List.append_assoc] at final answered
        refine ⟨more ++ further, final, ?_⟩
        intro arrived
        by_cases silent : first.arrivals = []
        · apply answered
          dsimp only at arrived
          rw [silent, List.nil_append] at arrived
          exact arrived
        · rw [← List.append_assoc]
          exact List.mem_append_left further (replied silent)

/-- A store whose client has let go takes up nothing more. -/
theorem Intake.release
    (intake : Intake before request sent isEnded connection ahead taken store) :
    Intake before request sent isEnded connection ahead taken (store.release connection) := by
  obtain ⟨legible, requests, serving, found, stage⟩ := intake
  have inside := (List.getElem?_eq_some_iff.mp found).1
  refine ⟨legible, requests, .finished, List.getElem?_set_self inside, ?_⟩
  change Stage _ _ _ _ _ _ _ store.objects
  generalize store.objects = reached at stage
  cases stage with
  | announced => exact .brokenOff List.not_mem_nil
  | taking _ unended => exact .brokenOff unended
  | brokenOff unended => exact .brokenOff unended
  | stored sealed ended => exact .stored sealed ended

/-! ### Saying more -/

theorem Intake.legible_concat
    (intake : Intake before request sent isEnded connection ahead taken store)
    (free : message.IsNulFree) (within : message.encode.length ≤ Wire.maximumSize) :
    ∀ other ∈ ahead ++ [message],
      other.IsNulFree ∧ other.encode.length ≤ Wire.maximumSize := by
  intro other listed
  rcases List.mem_append.mp listed with earlier | last
  · exact intake.legible other earlier
  · rw [List.mem_singleton.mp last]
    exact ⟨free, within⟩

/-- A piece of data goes behind all that was sent. -/
theorem Intake.piece
    (intake : Intake before request sent false connection ahead taken store) {data : Bytes}
    (within : (Message.copyData data).encode.length ≤ Wire.maximumSize) :
    Intake before request (sent ++ data) false connection (ahead ++ [.copyData data]) taken
      store := by
  have plain : (Message.copyData data).IsNulFree := trivial
  have legible := intake.legible_concat plain within
  obtain ⟨_, requests, serving, found, stage⟩ := intake
  refine ⟨legible, requests, serving, found, ?_⟩
  have grown (pieces : List Bytes) : (pieces.map Message.copyData ++ ending false) ++
      [.copyData data] = (pieces ++ [data]).map .copyData ++ ending false := by
    simp only [ending, Bool.false_eq_true, if_false, List.append_nil, List.map_append,
      List.map_singleton]
  generalize store.objects = reached at stage
  cases stage with
  | announced whole =>
    rw [List.cons_append, grown]
    refine .announced ?_
    rw [List.flatten_append, whole, List.flatten_singleton]
  | taking whole unended =>
    rw [grown]
    refine .taking ?_ unended
    rw [List.flatten_append, List.flatten_singleton, ← List.append_assoc, whole]
  | brokenOff unended => exact .brokenOff unended
  | stored impossible => cases impossible

/-- The end of the upload goes behind all that was sent. -/
theorem Intake.close (intake : Intake before request sent false connection ahead taken store) :
    Intake before request sent true connection (ahead ++ [.commandComplete]) taken store := by
  have plain : Message.commandComplete.IsNulFree := trivial
  have within : Message.commandComplete.encode.length ≤ Wire.maximumSize := by decide
  have legible := intake.legible_concat plain within
  obtain ⟨_, requests, serving, found, stage⟩ := intake
  refine ⟨legible, requests, serving, found, ?_⟩
  have grown (pieces : List Bytes) : (pieces.map Message.copyData ++ ending false) ++
      [.commandComplete] = pieces.map .copyData ++ ending true := by
    simp only [ending, Bool.false_eq_true, if_false, if_true, List.append_nil]
  generalize store.objects = reached at stage
  cases stage with
  | announced whole =>
    rw [List.cons_append, grown]
    exact .announced whole
  | taking whole unended =>
    rw [grown]
    exact .taking whole unended
  | brokenOff unended => exact .brokenOff unended
  | stored impossible => cases impossible

end

end ObjectStore

end SegmentOffload
