import SegmentOffload.Proofs.StagedUploads
import SegmentOffload.Proofs.UploadConversation

/-!
What is stored of an upload.

However far the store lags behind the client, and however the upload is broken off, the objects are
as they were until the store has taken up the end of the upload.  Then the object at its path is all
that was written, and an upload that is closed well has come that far.
-/

namespace SegmentOffload

open Wire (Message PutRequest)

namespace Upload

open ObjectStore (PassesTo UnderstandsUpload Ready Goes StoresWhole insertInto)

/-! ### Conversations -/

/-- The bytes of a call. -/
def Call.data : Call → Bytes
  | write data => data
  | _ => []

/-- All bytes that calls write. -/
def payload (calls : List Call) : Bytes :=
  calls.flatMap Call.data

theorem payload_concat (calls : List Call) (call : Call) :
    payload (calls ++ [call]) = payload calls ++ call.data := by
  rw [payload, List.flatMap_append, List.flatMap_singleton]
  rfl

/-- What calls announce, send and end. -/
def StoresSealed (before : ObjectStore) (request : PutRequest) (calls : List Call)
    (store : ObjectStore) : Prop :=
  StoresWhole before request (payload (calls.takeWhile (· ≠ .close))) (.close ∈ calls) store

theorem StoresSealed.concat {before reached : ObjectStore} {request : PutRequest}
    {calls : List Call} (stores : StoresSealed before request calls reached) (call : Call) :
    StoresSealed before request (calls ++ [call]) reached := by
  unfold StoresSealed at stores
  by_cases closed : .close ∈ calls
  · have both : Call.close ∈ calls ++ [call] := List.mem_append_left _ closed
    rw [decide_eq_true closed] at stores
    rw [StoresSealed, decide_eq_true both, takeWhile_append_of_closed closed]
    exact stores
  · rw [decide_eq_false closed] at stores
    exact stores.of_unended

section

variable {π : Type} [Peer π] {store : π → ObjectStore} {waiting : π → Nat → List Bytes}
  {begun : Network π} {request : PutRequest} {conversation : Conversation π}

/-- An upload is ready for more, or it is settled and the store has what it has. -/
def Stands (store : π → ObjectStore) (waiting : π → Nat → List Bytes) (begun : Network π)
    (request : PutRequest) (conversation : Conversation π) : Prop :=
  let calls := conversation.answers.map Prod.fst
  (∀ call ∈ calls, call ≠ .close) ∧ Ready store waiting begun request (payload calls)
      conversation.upload.phase conversation.client.network ∨
    (conversation.upload.phase = .closed ∨ conversation.upload.phase = .failed) ∧
      StoresSealed (store begun.peer) request calls (store conversation.client.network.peer)

omit [Peer π] in
theorem storesSealed_of_ready {calls : List Call} {before reached : ObjectStore}
    (talking : ∀ call ∈ calls, call ≠ .close)
    (stores : StoresWhole before request (payload calls) true reached) :
    StoresSealed before request (calls ++ [.close]) reached := by
  have both : Call.close ∈ calls ++ [.close] := List.mem_concat_self
  have front : (calls ++ [Call.close]).takeWhile (· ≠ .close) = calls := by
    rw [List.takeWhile_append_of_pos fun call listed => decide_eq_true (talking call listed)]
    exact List.append_nil calls
  rw [StoresSealed, decide_eq_true both, front]
  exact stores

omit [Peer π] in
theorem stands_of_goes {call : Call} {after : Upload} {left : Client π}
    {answers : List (Call × Except ClientError Unit)} {outcome : Except ClientError Unit}
    (talking : ∀ call ∈ answers.map Prod.fst, call ≠ .close) (speaks : call ≠ .close)
    (goes : Goes store waiting begun request (payload (answers.map Prod.fst) ++ call.data) outcome
      after.phase left.network) :
    Stands store waiting begun request ⟨after, left, answers ++ [(call, outcome)]⟩ := by
  unfold Stands
  dsimp only
  rw [List.map_append, List.map_singleton]
  generalize reached : after.phase = phase at goes
  generalize stands : left.network = network at goes ⊢
  cases goes with
  | on underway =>
    refine .inl ⟨?_, ?_⟩
    · intro other listed
      rcases List.mem_append.mp listed with earlier | last
      · exact talking other earlier
      · rw [List.mem_singleton.mp last]
        exact speaks
    · rw [payload_concat]
      exact .opened underway
  | breaks kept => exact .inr ⟨.inr rfl, kept.of_unended⟩

section

variable (passes : PassesTo store waiting)
include passes

theorem close_stands {after : Upload} {left : Client π} {outcome : Except ClientError Unit}
    (talking : ∀ call ∈ conversation.answers.map Prod.fst, call ≠ .close)
    (ready : Ready store waiting begun request (payload (conversation.answers.map Prod.fst))
      conversation.upload.phase conversation.client.network)
    (closed : conversation.upload.close conversation.client = (outcome, after, left)) :
    Stands store waiting begun request
      ⟨after, left, conversation.answers ++ [(.close, outcome)]⟩ := by
  unfold Stands
  dsimp only
  rw [List.map_append, List.map_singleton]
  generalize phase : conversation.upload.phase = reached at ready
  generalize held : conversation.client.network = network at ready
  generalize sent : payload (conversation.answers.map Prod.fst) = whole at ready
  cases ready with
  | pending =>
    rw [close, phase] at closed
    cases closed
    refine .inr ⟨.inl rfl, storesSealed_of_ready talking ?_⟩
    rw [held]
    exact ObjectStore.storesWhole_refl _ _ _ _
  | opened underway =>
    rw [← held, ← sent] at underway
    obtain ⟨stored, ended⟩ := ObjectStore.close_underway passes phase underway closed
    refine .inr ⟨?_, storesSealed_of_ready talking stored⟩
    rcases ended with ⟨_, rfl, _⟩ | ⟨_, _, rfl⟩
    · exact .inl rfl
    · exact .inr rfl

variable (matched : (store begun.peer).lines.length = begun.lines.length)
  (understands : UnderstandsUpload request)
include matched understands

theorem step_stands (announces : conversation.upload.announcement = request)
    (stands : Stands store waiting begun request conversation) (call : Call × Disk)
    (fits : (Message.copyData call.1.data).encode.length ≤ Wire.maximumSize) :
    Stands store waiting begun request (conversation.step call) := by
  obtain ⟨call, disk⟩ := call
  rcases stands with ⟨talking, ready⟩ | ⟨settled, stores⟩
  · cases answered : conversation.upload.answer disk conversation.client call with
    | mk outcome rest =>
    rw [Conversation.step, answered]
    cases call with
    | start =>
      have goes := ObjectStore.start_goes passes matched announces understands ready answered
      rw [← List.append_nil (payload _)] at goes
      exact stands_of_goes talking Call.noConfusion goes
    | write data =>
      have goes := ObjectStore.write_goes passes matched announces understands ready fits answered
      exact stands_of_goes talking Call.noConfusion goes
    | close => exact close_stands passes talking ready answered
  · have unmoved : ∃ outcome, conversation.upload.answer disk conversation.client call =
        (outcome, conversation.upload, conversation.client) := by
      rcases settled with closed | failed
      · exact ⟨_, answer_of_closed closed disk _ call⟩
      · exact ⟨_, answer_of_failed failed disk _ call⟩
    obtain ⟨outcome, answered⟩ := unmoved
    rw [Conversation.step, answered]
    refine .inr ⟨settled, ?_⟩
    rw [List.map_append]
    exact stores.concat call

theorem run_stands {before : List Line} (keeps : Keeps request before conversation)
    (stands : Stands store waiting begun request conversation) {calls : List (Call × Disk)}
    (fits : ∀ call ∈ calls, (Message.copyData call.1.data).encode.length ≤ Wire.maximumSize) :
    Stands store waiting begun request (conversation.run calls) := by
  induction calls generalizing conversation with
  | nil => exact stands
  | cons call rest ih =>
    obtain ⟨first, others⟩ := List.forall_mem_cons.mp fits
    exact ih (step_keeps keeps call)
      (step_stands passes matched understands keeps.announcement stands call first) others

end

/-! ### What is stored -/

/-- What an upload leaves in a store behind the peer of a client, after some calls.  When it is
closed well at last, the object at its path is all that was written, no other object has changed,
and the chunk is described with that length.  At any time, also when the upload is dropped, the
objects are as they were unless the end of the upload is among the messages that the store has taken
up since; then the object at the path is all that was written before the first close. -/
structure StoresPayload (store : π → ObjectStore) (begun : Conversation π)
    (calls : List (Call × Disk)) : Prop where
  whole : ∀ session later after, (begun.run calls).upload.phase = .opened session →
    (begun.run calls).upload.close (begun.run calls).client = (.ok (), later, after) →
    let path := begun.upload.remotePath
    let data := payload (calls.map Prod.fst)
    (store after.network.peer).objects =
        insertInto path data (store begun.client.network.peer).objects ∧
      (store after.network.peer).object? path = some data ∧
      (∀ other, other ≠ path → (store after.network.peer).object? other =
        (store begun.client.network.peer).object? other) ∧
      later.written = data.length ∧
      (data.length < UInt64.size →
        ∀ startOffset, (later.chunk startOffset).byteLength.toNat = data.length)
  sealed : ∀ after, after = (begun.run calls).client ∨
      after = (begun.run calls).upload.abandon (begun.run calls).client →
    ∃ taken, (store after.network.peer).requests =
        (store begun.client.network.peer).requests ++ taken ∧
      (.commandComplete ∉ taken →
        (store after.network.peer).objects = (store begun.client.network.peer).objects) ∧
      (.commandComplete ∈ taken → .close ∈ calls.map Prod.fst ∧
        (store after.network.peer).objects =
          insertInto begun.upload.remotePath
            (payload ((calls.map Prod.fst).takeWhile (· ≠ .close)))
            (store begun.client.network.peer).objects)

omit [Peer π] in
theorem writtenLength_of_ok {answers : List (Call × Except ClientError Unit)}
    (well : ∀ answer ∈ answers, answer.2 = .ok ()) :
    writtenLength answers = (payload (answers.map Prod.fst)).length := by
  induction answers using List.reverseRecOn with
  | nil => rfl
  | append_singleton answers answer ih =>
    obtain ⟨call, outcome⟩ := answer
    have last : outcome = .ok () := well _ List.mem_concat_self
    have first := ih fun other listed => well other (List.mem_append_left _ listed)
    rw [writtenLength_concat, List.map_append, List.map_singleton, payload_concat,
      List.length_append, first, last]
    cases call <;> rfl

/-- The store stands within the upload while it is open, also when it is dropped then. -/
theorem storesSealed_of_stands (passes : PassesTo store waiting)
    (stands : Stands store waiting begun request conversation) {after : Client π}
    (left : after = conversation.client ∨
      after = conversation.upload.abandon conversation.client) :
    StoresSealed (store begun.peer) request (conversation.answers.map Prod.fst)
      (store after.network.peer) := by
  rcases stands with ⟨talking, ready⟩ | ⟨settled, stores⟩
  · generalize phase : conversation.upload.phase = reached at ready
    generalize held : conversation.client.network = network at ready
    generalize payload (conversation.answers.map Prod.fst) = sent at ready
    cases ready with
    | pending =>
      have same : after = conversation.client := by
        rcases left with same | same
        · exact same
        · rw [same, abandon, phase]
      rw [same, held]
      exact ObjectStore.storesWhole_refl _ _ _ _
    | opened underway =>
      apply StoresWhole.of_unended
      rw [← held] at underway
      rcases left with rfl | rfl
      · obtain ⟨_, _, _, intake⟩ := underway
        exact intake.storesWhole
      · exact ObjectStore.abandon_underway passes phase underway
  · have same : after = conversation.client := by
      rcases left with same | same
      · exact same
      · rcases settled with closed | failed
        · rw [same, abandon, closed]
        · rw [same, abandon, failed]
    rw [same]
    exact stores

/-- A close that goes well on an open upload has stored all that was written. -/
theorem close_stores (passes : PassesTo store waiting) {before : List Line}
    (keeps : Keeps request before conversation)
    (stands : Stands store waiting begun request conversation) {session : Session}
    (opened : conversation.upload.phase = .opened session) {later : Upload} {after : Client π}
    (closed : conversation.upload.close conversation.client = (.ok (), later, after)) :
    let data := payload (conversation.answers.map Prod.fst)
    (store after.network.peer).objects =
        insertInto request.remotePath data (store begun.peer).objects ∧
      later.written = data.length := by
  have serving := serving_of_opened keeps opened
  rcases stands with ⟨_, ready⟩ | ⟨closed | failed, _⟩
  · rw [opened] at ready
    obtain ⟨_, ⟨_, rfl, objects⟩ | ⟨_, impossible, _⟩⟩ :=
      ObjectStore.close_underway passes opened ready.underway closed
    · refine ⟨objects, ?_⟩
      rw [← writtenLength_of_ok fun answer listed => (serving.well answer listed).2]
      exact keeps.written
    · cases impossible
  · rw [closed] at opened
    cases opened
  · rw [failed] at opened
    cases opened

theorem storesPayload (passes : PassesTo store waiting) (config : ClientConfig)
    (segment : Segment) (modificationCount logPosition plannedLength : UInt64)
    {client : Client π} {calls : List (Call × Disk)}
    (matched : (store client.network.peer).lines.length = client.network.lines.length)
    (understands : UnderstandsUpload
      (Upload.new config segment modificationCount logPosition plannedLength).announcement)
    (fits : ∀ call ∈ calls, (Message.copyData call.1.data).encode.length ≤ Wire.maximumSize) :
    StoresPayload store (.ofUpload
      (Upload.new config segment modificationCount logPosition plannedLength) client) calls := by
  let upload := Upload.new config segment modificationCount logPosition plannedLength
  let begun : Conversation π := .ofUpload upload client
  have keeps : Keeps upload.announcement client.network.lines begun :=
    keeps_ofUpload config segment modificationCount logPosition plannedLength client
  have first : Stands store waiting client.network upload.announcement begun := by
    refine .inl ⟨?_, .pending⟩
    intro call impossible
    cases impossible
  have stands := run_stands passes matched understands keeps first fits
  have asked : (begun.run calls).answers.map Prod.fst = calls.map Prod.fst :=
    begun.answers_run calls
  constructor
  · intro session later after opened closed path data
    obtain ⟨objects, written⟩ := close_stores passes (run_keeps keeps calls) stands opened closed
    rw [asked] at objects written
    refine ⟨objects, ?_, ?_, written, ?_⟩
    · rw [ObjectStore.object?, objects]
      exact congrArg _ (ObjectStore.find?_insertInto_self _ _ _)
    · intro other apart
      rw [ObjectStore.object?, objects]
      exact congrArg _ (ObjectStore.find?_insertInto_of_ne apart _ _)
    · intro small startOffset
      change (UInt64.ofNat later.written).toNat = _
      rw [written, UInt64.toNat_ofNat_of_lt' small]
  · intro after left
    have stores := storesSealed_of_stands passes stands left
    rw [asked] at stores
    obtain ⟨taken, requests, unended, ended⟩ := stores
    refine ⟨taken, requests, unended, ?_⟩
    intro took
    obtain ⟨closed, objects⟩ := ended took
    exact ⟨of_decide_eq_true closed, objects⟩

end

/-- However an upload is called, however the store misbehaves, and however far it lags behind what
was sent to it: a close that goes well on an open upload has stored exactly what was written, and
nothing is stored of an upload whose end the store has not taken up. -/
theorem only_sealed_uploads_are_stored (config : ClientConfig) (segment : Segment)
    (modificationCount logPosition plannedLength : UInt64) (calls : List (Call × Disk)) :
    let upload := Upload.new config segment modificationCount logPosition plannedLength
    UnderstandsUpload upload.announcement →
    (∀ call ∈ calls, (Message.copyData call.1.data).encode.length ≤ Wire.maximumSize) →
    (∀ client : Client ObjectStore,
      client.network.peer.lines.length = client.network.lines.length →
      StoresPayload (fun store => store) (.ofUpload upload client) calls) ∧
    (∀ client : Client PacedStore,
      client.network.peer.store.lines.length = client.network.lines.length →
      StoresPayload PacedStore.store (.ofUpload upload client) calls) := by
  intro upload understands fits
  constructor
  · intro client matched
    exact storesPayload ObjectStore.passesTo_self config segment modificationCount logPosition
      plannedLength matched understands fits
  · intro client matched
    exact storesPayload PacedStore.passesTo_store config segment modificationCount logPosition
      plannedLength matched understands fits

/-- An upload to a store without objects that lags behind. -/
def laggingClient (faults : List Fault) (pace : List Nat) : Client PacedStore :=
  ⟨⟨.ofStore { ObjectStore.empty with faults } pace, []⟩, []⟩

def laggingUpload (faults : List Fault) (pace : List Nat) : Conversation PacedStore :=
  .ofUpload (.new storeConfig smallSegment 1 2 3) (laggingClient faults pace)

/-- The store takes up nothing but the connection before the end of the upload, and then all of it.
When it is to hang up behind the first byte, both pieces go out well nevertheless, but the upload is
not closed well and nothing is stored. -/
theorem only_sealed_uploads_are_stored_behind_lagging_store :
    let calls := smallCalls ++ [(.write [3], storeDisk)]
    let whole := (laggingUpload [] [1, 0, 0, 0]).run calls
    let cut := (laggingUpload [.dropAfter 1] [1, 1, 0, 0]).run calls
    let closing := (laggingUpload [.dropAfter 1] [1, 1, 0, 0]).run
      (calls ++ [(.close, storeDisk)])
    ((whole.upload.close whole.client).1 = .ok () ∧
      (whole.upload.close whole.client).2.2.network.peer.store.object?
        (smallSegment.chunkPath 1 2) = some [1, 2, 3]) ∧
    (∀ answer ∈ cut.answers, answer.2 = .ok ()) ∧
    (cut.upload.close cut.client).1 ≠ .ok () ∧
    closing.client.network.peer.store.objects = [] := by
  intro calls whole cut closing
  let sealing : List (Call × Disk) := calls ++ [(.close, storeDisk)]
  have understands : UnderstandsUpload
      (Upload.new storeConfig smallSegment 1 2 3).announcement := by
    constructor
    · exact ⟨by decide +kernel, by decide +kernel, by decide +kernel⟩
    · decide +kernel
  have fits : ∀ call ∈ sealing,
      (Message.copyData call.1.data).encode.length ≤ Wire.maximumSize := by decide +kernel
  have opened : whole.upload.phase = .opened ⟨"/s", smallSegment.chunkPath 1 2, 0⟩ := by
    decide +kernel
  have closed : (whole.upload.close whole.client).1 = .ok () := by decide +kernel
  have taken : closing.client.network.peer.store.requests =
      [.put (Upload.new storeConfig smallSegment 1 2 3).announcement, .copyData [1, 2]] := by
    decide +kernel
  refine ⟨⟨closed, ?_⟩, by decide +kernel, by decide +kernel, ?_⟩
  · have stores : StoresPayload PacedStore.store (laggingUpload [] [1, 0, 0, 0]) calls :=
      (only_sealed_uploads_are_stored storeConfig smallSegment 1 2 3 calls understands
        fun call listed => fits call (List.mem_append_left _ listed)).2
        (laggingClient [] [1, 0, 0, 0]) rfl
    cases answered : whole.upload.close whole.client with
    | mk outcome rest =>
      rw [answered] at closed
      dsimp only at closed
      rw [closed] at answered
      exact (stores.whole _ _ _ opened answered).2.1
  · have stores : StoresPayload PacedStore.store (laggingUpload [.dropAfter 1] [1, 1, 0, 0])
        sealing :=
      (only_sealed_uploads_are_stored storeConfig smallSegment 1 2 3 sealing understands fits).2
        (laggingClient [.dropAfter 1] [1, 1, 0, 0]) rfl
    obtain ⟨messages, requests, unended, _⟩ := stores.sealed closing.client (.inl rfl)
    apply unended
    rw [taken] at requests
    change _ = [] ++ messages at requests
    rw [List.nil_append] at requests
    rw [← requests]
    decide

end Upload

end SegmentOffload
