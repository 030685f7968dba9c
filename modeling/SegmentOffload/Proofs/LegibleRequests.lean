import SegmentOffload.Proofs.ChunkPaths
import SegmentOffload.Proofs.ChunkRequests
import SegmentOffload.Proofs.OffloadConversation

/-!
Which requests the peer can read.

Nothing is checked when a message is written, so whether it is read back as itself depends on what it
is made of.  Of a question it is the table space, of an announcement the storage class and the table
space that must not hold the character zero, and no frame may be longer than the longest one that is
accepted.  Everything that downloads, uploads and offloads send is made of such messages, from the
front of the first one on.
-/

namespace SegmentOffload

open Wire (Message maximumSize headerSize)

/-! ### Messages that are read back -/

namespace Wire.Message

/-- The message is read back as itself. -/
def IsLegible (message : Message) : Prop :=
  Message.decode message.encode = .ok message

theorem isLegible_iff (message : Message) :
    message.IsLegible ↔ message.IsNulFree ∧ message.encode.length ≤ maximumSize := by
  constructor
  · intro decoded
    exact ⟨isNulFree_of_decode decoded, length_le_of_decode decoded⟩
  · intro given
    exact decode_encode given.1 given.2

/-- The longest piece of data whose frame is accepted. -/
def longestPiece : Nat := maximumSize - headerSize - 8

theorem isLegible_copyData_iff (data : Bytes) :
    (copyData data).IsLegible ↔ data.length ≤ longestPiece := by
  rw [isLegible_iff, length_encode, body, List.length_append, length_wordBytes, longestPiece,
    maximumSize, headerSize]
  simp only [IsNulFree, true_and]
  omega

theorem isLegible_commandComplete : commandComplete.IsLegible := by
  rw [isLegible_iff]
  exact ⟨trivial, by decide⟩

end Wire.Message

/-- What a setup has to come to for a message to be read back, when the message's path is free of the
character zero. -/
def ClientConfig.Permits (config : ClientConfig) : Message → Prop
  | .cat request =>
    NulFree config.tableSpace ∧ (Message.cat request).encode.length ≤ maximumSize
  | .put request => NulFree config.storageClass ∧ NulFree config.tableSpace ∧
    (Message.put request).encode.length ≤ maximumSize
  | .copyData data => data.length ≤ Message.longestPiece
  | _ => True

/-! ### Questions of a download -/

namespace Download

/-- A question for a chunk, from wherever on. -/
structure AsksFor (config : ClientConfig) (chunk : Chunk) (request : Wire.CatRequest) : Prop where
  remotePath : request.remotePath = chunk.remotePath
  decrypt : request.decrypt = chunk.encrypted
  settings : request.settings = [("TableSpace", config.tableSpace)]

theorem AsksFor.isLegible_iff {config : ClientConfig} {chunk : Chunk} {request : Wire.CatRequest}
    (asks : AsksFor config chunk request) (free : NulFree chunk.remotePath) :
    (Message.cat request).IsLegible ↔ config.Permits (.cat request) := by
  have key : NulFree "TableSpace" := by decide
  rw [Message.isLegible_iff, ClientConfig.Permits, Message.IsNulFree, asks.remotePath,
    asks.settings, Wire.Settings.IsNulFree]
  simp [free, key]

variable {π : Type} [Peer π]

/-- Every line of a download has carried the front of one question for one of its chunks. -/
theorem run_asks (config : ClientConfig) (chunks : List Chunk) (client : Client π)
    (calls : List Call) :
    ∃ own, ((Reading.ofChunks config chunks client).run calls).client.network.lines =
        client.network.lines ++ own ∧
      ∀ line ∈ own, ∃ chunk ∈ chunks, ∃ request, AsksFor config chunk request ∧
        line.sent <+: (Message.cat request).encode := by
  let filled := chunks.filter fun chunk => !chunk.isEmpty
  have begun := conversing_ofChunks config chunks client
  obtain ⟨trials, called⟩ := calls_run (Reading.ofChunks config chunks client) calls
  have ended := called.keeps (conversing_kept config filled client.network.lines) begun
  obtain ⟨said, talking, answers⟩ := ended.spoken
  obtain ⟨own, lines, rfl, _⟩ := talking.own
  rw [List.forall₂_map_right_iff] at answers
  refine ⟨own, lines, ?_⟩
  intro line listed
  obtain ⟨position, inside, rfl⟩ := List.getElem_of_mem listed
  obtain ⟨chunk, found, front, _⟩ := answers.get (by rw [answers.length_eq]; exact inside) inside
  have member := List.mem_of_getElem? found
  exact ⟨chunk, (List.mem_filter.mp member).1, _, ⟨rfl, rfl, rfl⟩, front⟩

end Download

/-! ### Messages of an upload -/

namespace Upload

/-- The messages of a call behind the announcement. -/
def Call.messages : Call → List Message
  | start => []
  | write data => if data = [] then [] else [.copyData data]
  | close => [.commandComplete]

/-- The messages that calls make an upload send when all goes well. -/
def messages (request : Wire.PutRequest) (calls : List Call) : List Message :=
  let spoken := calls.takeWhile (· ≠ .close)
  if spoken = [] then []
  else
    .put request :: spoken.flatMap Call.messages ++
      if .close ∈ calls then [.commandComplete] else []

theorem Call.frame_eq_encode (call : Call) : call.frame = call.messages.flatMap Message.encode := by
  cases call with
  | start => rfl
  | write data =>
    by_cases nothing : data = [] <;> simp [frame, messages, pieceFrame, nothing]
  | close => simp [frame, messages]

theorem script_eq_encode (request : Wire.PutRequest) (calls : List Call) :
    script request calls = (messages request calls).flatMap Message.encode := by
  have frames (spoken : List Call) : spoken.flatMap Call.frame =
      (spoken.flatMap Call.messages).flatMap Message.encode := by
    induction spoken with
    | nil => rfl
    | cons call rest ih =>
      rw [List.flatMap_cons, List.flatMap_cons, List.flatMap_append, ih, call.frame_eq_encode]
  unfold script messages
  dsimp only
  split
  · rfl
  · rw [List.flatMap_append, List.flatMap_cons, frames]
    split <;> simp

theorem mem_messages {request : Wire.PutRequest} {calls : List Call} {message : Message}
    (sent : message ∈ messages request calls) :
    message = .put request ∨ message = .commandComplete ∨
      ∃ data, .write data ∈ calls ∧ message = .copyData data := by
  unfold messages at sent
  dsimp only at sent
  split at sent
  · cases sent
  · rcases List.mem_append.mp sent with spoken | ending
    · rcases List.mem_cons.mp spoken with announced | further
      · exact .inl announced
      · obtain ⟨call, listed, said⟩ := List.mem_flatMap.mp further
        have asked := (List.takeWhile_sublist _).mem listed
        cases call with
        | start => cases said
        | write data =>
          by_cases nothing : data = []
          · simp [Call.messages, nothing] at said
          · rw [Call.messages, if_neg nothing, List.mem_singleton] at said
            exact .inr (.inr ⟨data, asked, said⟩)
        | close => exact .inr (.inl (List.mem_singleton.mp said))
    · split at ending
      · exact .inr (.inl (List.mem_singleton.mp ending))
      · cases ending

variable {π : Type} [Peer π]

/-- What an upload sends is read back when its setup permits it. -/
theorem isLegible_of_mem_messages {config : ClientConfig} {segment : Segment}
    {modificationCount logPosition plannedLength : UInt64} {calls : List Call}
    {message : Message} (digest : NulFree segment.relationHash)
    (sent : message ∈ messages
      (Upload.new config segment modificationCount logPosition plannedLength).announcement calls) :
    message.IsLegible ↔ config.Permits message := by
  rcases mem_messages sent with rfl | rfl | ⟨data, _, rfl⟩
  · have free : NulFree (segment.chunkPath modificationCount logPosition) :=
      nulFree_chunkPath digest modificationCount logPosition
    rw [Message.isLegible_iff, ClientConfig.Permits, Message.IsNulFree]
    simp [announcement, Upload.new, free, and_assoc]
  · simp [Message.isLegible_commandComplete, ClientConfig.Permits]
  · exact Message.isLegible_copyData_iff data

/-- What an upload has said is the front of the messages of its calls, and all of it unless a call
failed before a close went well. -/
theorem keeps_says {request : Wire.PutRequest} {before : List Line} {conversation : Conversation π}
    (keeps : Keeps request before conversation) :
    ∃ made, (conversation.upload.abandon conversation.client).network.lines = before ++ made ∧
      made.length ≤ 1 ∧
      made.flatMap Line.sent <+:
        (messages request (conversation.answers.map Prod.fst)).flatMap Message.encode ∧
      ((.close, .ok ()) ∈ conversation.answers →
        made.flatMap Line.sent =
          (messages request (conversation.answers.map Prod.fst)).flatMap Message.encode) := by
  simp only [← script_eq_encode]
  cases phase : conversation.upload.phase with
  | opened session =>
    have serving := serving_of_opened keeps phase
    have serves := serving.serves
    rw [phase] at serves
    obtain ⟨line, lines, _, whole⟩ := serves.holds.close
    refine ⟨[line], ?_, Nat.le_refl _, ?_, fun _ => ?_⟩
    · rw [abandon, phase]
      simp only [hangUp, phase]
      exact lines
    · simp [whole]
    · rw [List.flatMap_singleton, whole]
  | _ =>
    obtain ⟨made, lines, few, front, whole⟩ := said_of_keeps keeps
    refine ⟨made, ?_, by omega, front, fun closed => whole (.inl closed)⟩
    rw [abandon, phase]
    exact lines

end Upload

/-! ### Whatever a setup sends -/

/-- Under any setup, and whatever the peer does:

* each line of a download has carried the front of one question for one of its chunks, and nothing
  else;
* an upload, however it is called, says the front of its announcement, its pieces and the end of its
  request;
* so does an offload, also one that fails, and its pieces fit the buffer;
* each of these messages is read back as itself exactly when the setup permits it, that is when the
  texts it takes from there are free of the character zero and its frame is not too long. -/
theorem requests_are_legible_as_permitted {π : Type} [Peer π] (config : ClientConfig)
    (client : Client π) :
    (∀ chunks calls, ∃ own,
      ((Download.Reading.ofChunks config chunks client).run calls).client.network.lines =
        client.network.lines ++ own ∧
      ∀ line ∈ own, ∃ chunk ∈ chunks, ∃ request, Download.AsksFor config chunk request ∧
        line.sent <+: (Message.cat request).encode ∧
        (NulFree chunk.remotePath →
          ((Message.cat request).IsLegible ↔ config.Permits (.cat request)))) ∧
    (∀ segment modificationCount logPosition plannedLength calls,
      let upload := Upload.new config segment modificationCount logPosition plannedLength
      let now := (Upload.Conversation.ofUpload upload client).run calls
      let messages := Upload.messages upload.announcement (calls.map Prod.fst)
      (∃ made, now.client.network.lines = client.network.lines ++ made ∧ made.length ≤ 1 ∧
        made.flatMap Line.sent <+: messages.flatMap Message.encode ∧
        ((∀ answer ∈ now.answers, answer.2 = .ok ()) →
          made.flatMap Line.sent = messages.flatMap Message.encode)) ∧
      (NulFree segment.relationHash →
        ∀ message ∈ messages, (message.IsLegible ↔ config.Permits message))) ∧
    ∀ segment modificationCount logPosition path logicalEnd alreadyOffloaded disk,
      let result := Offload.offload config segment modificationCount logPosition path logicalEnd
        alreadyOffloaded ⟨client, disk⟩
      ∃ plannedLength calls made,
        let upload := Upload.new config segment modificationCount logPosition plannedLength
        let messages := Upload.messages upload.announcement calls
        result.2.client.network.lines = client.network.lines ++ made ∧ made.length ≤ 1 ∧
        made.flatMap Line.sent <+: messages.flatMap Message.encode ∧
        (result.1.isOk → made.flatMap Line.sent = messages.flatMap Message.encode) ∧
        (∀ data, .copyData data ∈ messages → data.length ≤ config.readBufferSize.toNat) ∧
        (NulFree segment.relationHash →
          ∀ message ∈ messages, (message.IsLegible ↔ config.Permits message)) := by
  constructor
  · intro chunks calls
    obtain ⟨own, lines, asked⟩ := Download.run_asks config chunks client calls
    refine ⟨own, lines, ?_⟩
    intro line listed
    obtain ⟨chunk, there, request, asks, front⟩ := asked line listed
    exact ⟨chunk, there, request, asks, front, asks.isLegible_iff⟩
  · constructor
    · intro segment modificationCount logPosition plannedLength calls upload now messages
      have keeps := Upload.run_keeps (Upload.keeps_ofUpload config segment modificationCount
        logPosition plannedLength client) calls
      have heard : now.answers.map Prod.fst = calls.map Prod.fst :=
        (Upload.Conversation.ofUpload upload client).answers_run calls
      constructor
      · obtain ⟨made, lines, few, front, whole⟩ := Upload.said_of_keeps keeps
        rw [Upload.script_eq_encode, heard] at front whole
        exact ⟨made, lines, by omega, front, fun well => whole (.inr well)⟩
      · intro digest message sent
        exact Upload.isLegible_of_mem_messages digest sent
    · intro segment modificationCount logPosition path logicalEnd alreadyOffloaded disk result
      obtain ⟨plannedLength, calls, within, left, well⟩ := Offload.offload_follows
        (Prod.ext rfl rfl : result = (result.1, result.2))
      have keeps := Upload.run_keeps (Upload.keeps_ofUpload config segment modificationCount
        logPosition plannedLength client) calls
      obtain ⟨made, lines, few, front, whole⟩ := Upload.keeps_says keeps
      rw [Upload.Conversation.answers_run] at front whole
      refine ⟨plannedLength, calls.map Prod.fst, made, ?_, few, front, fun ok => whole (well ok),
        ?_, ?_⟩
      · rw [left]
        exact lines
      · intro data sent
        rcases Upload.mem_messages sent with impossible | impossible | ⟨piece, listed, same⟩
        · cases impossible
        · cases impossible
        · cases same
          obtain ⟨call, there, written⟩ := List.mem_map.mp listed
          exact (within call there data written).2
      · intro digest message sent
        exact Upload.isLegible_of_mem_messages digest sent

/-- A setup that is accepted, with a table space that ends early when it is read back. -/
def splitSpace : ClientConfig :=
  { Upload.storeConfig with tableSpace := "a\x00b", retryLimit := 1 }

/-- The question that is sent under it is refused. -/
theorem accepted_setup_sends_illegible_question :
    let chunk : Chunk := ⟨1, 0, "p", 4, 0, false⟩
    let start := Download.Reading.ofChunks splitSpace [chunk] Upload.storeClient
    let asked := start.run [.pull 4 Upload.storeDisk]
    splitSpace.validate = .ok () ∧ NulFree chunk.remotePath ∧
      ∃ line, asked.client.network.lines = [line] ∧ (Message.decode line.sent).isOk = false := by
  intro chunk start asked
  have refused : asked.client.network.lines.map (fun line => (Message.decode line.sent).isOk) =
      [false] := by
    decide +kernel
  obtain ⟨line, lines, illegible⟩ := List.map_eq_singleton_iff.mp refused
  exact ⟨by decide +kernel, by decide, line, lines, illegible⟩

end SegmentOffload
