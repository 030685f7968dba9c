import SegmentOffload.Proofs.Delivery
import SegmentOffload.Proofs.OffloadEffect
import SegmentOffload.Proofs.UploadCalls

/-!
What an offload sends, whatever the peer does with it.

The loop that sends a range has three lengths to keep apart, and the chunk is described from a count
that the upload keeps.  They agree: an offload that goes well has made one connection and sent there
the announcement, pieces that join to exactly the range, and the end of the request, and the peer has
acknowledged it.
-/

namespace SegmentOffload.Offload

open Wire (Message)

variable {π : Type} [Peer π] {before : List Line} {said : Bytes} {session : Session}
  {progress later : Progress π} {outcome : Except Failure Unit}

/-! ### Sending a range -/

/-- Pieces that are sent one by one: none is empty, and each fits the buffer. -/
def FitsBuffer (bufferSize : Nat) (pieces : List Bytes) : Prop :=
  ∀ piece ∈ pieces, piece ≠ [] ∧ piece.length ≤ bufferSize

/-- What is said by sending pieces. -/
def framesOf (pieces : List Bytes) : Bytes :=
  pieces.flatMap fun piece => (Message.copyData piece).encode

/-- A piece is sent whole on the line of the upload, which stays. -/
theorem run_write_says {data : Bytes} (opened : progress.upload.phase = .opened session)
    (holds : session.Holds before said progress.host.client.network.lines) (nonempty : data ≠ [])
    {disk : Disk}
    (ran : progress.run (fun upload client => upload.write data disk client) = (.ok (), later)) :
    ∃ session, later.upload = { progress.upload with
        phase := .opened session, written := progress.upload.written + data.length } ∧
      session.Holds before (said ++ (Message.copyData data).encode)
        later.host.client.network.lines := by
  obtain ⟨result, wrote, answered, _⟩ := run_cases ran
  have serves : Upload.Serves before progress.upload.phase said
      progress.host.client.network.lines := by
    rw [opened]
    exact .opened holds
  have greeted : progress.upload.greeting = [] := by
    rw [Upload.greeting, opened]
  rcases Upload.write_proceeds serves wrote with ⟨session, _, grown, speaks⟩ | ⟨error, failed, _⟩
  · rw [greeted, List.append_nil, Upload.pieceFrame, if_neg nonempty] at speaks
    exact ⟨session, grown, speaks⟩
  · rw [answered.mp rfl] at failed
    cases failed

/-- A range that was sent went out in pieces of the file that join to the range. -/
theorem sendRange_says {node : Node} {bufferSize offset remaining : Nat}
    (opened : progress.upload.phase = .opened session)
    (holds : session.Holds before said progress.host.client.network.lines)
    (done : sendRange node bufferSize offset remaining progress = (.ok (), later)) :
    ∃ session pieces, FitsBuffer bufferSize pieces ∧ pieces.flatten.length = remaining ∧
      IsRange node offset pieces.flatten ∧
      later.upload = { progress.upload with
        phase := .opened session, written := progress.upload.written + remaining } ∧
      session.Holds before (said ++ framesOf pieces) later.host.client.network.lines := by
  fun_induction sendRange node bufferSize offset remaining progress generalizing said session with
  | case1 offset progress =>
    cases done
    refine ⟨session, [], ?_, rfl, ?_, ?_, ?_⟩
    · intro piece impossible
      cases impossible
    · intro impossible
      exact absurd rfl impossible
    · rw [← opened]
      rfl
    · rw [framesOf, List.flatMap_nil, List.append_nil]
      exact holds
  | case2 => cases done
  | case3 => cases done
  | case4 => cases done
  | case5 offset remaining progress owing first rest disk read data reading moved =>
    rename_i ran ih
    obtain ⟨limited, range⟩ := isRange_readAt read
    have nonempty : data ≠ [] := List.cons_ne_nil first rest
    have short : data.length ≤ remaining ∧ data.length ≤ bufferSize := by
      change data.length ≤ min remaining bufferSize at limited
      omega
    have running : reading.upload.phase = .opened session := opened
    obtain ⟨speaker, grown, speaks⟩ := run_write_says running holds nonempty ran
    have stillOpened : moved.upload.phase = .opened speaker := by
      rw [grown]
    obtain ⟨last, pieces, fit, size, further, upload, whole⟩ := ih stillOpened speaks done
    refine ⟨last, data :: pieces, ?_, ?_, ?_, ?_, ?_⟩
    · exact List.forall_mem_cons.mpr ⟨⟨nonempty, short.2⟩, fit⟩
    · rw [List.flatten_cons, List.length_append, size]
      omega
    · rw [List.flatten_cons]
      exact range.append further
    · rw [upload, grown]
      have sum : reading.upload.written + data.length + (remaining - data.length) =
          progress.upload.written + remaining := by
        change progress.upload.written + data.length + (remaining - data.length) = _
        omega
      simp only [sum]
      rfl
    · rw [framesOf, List.flatMap_cons, ← List.append_assoc]
      exact whole

/-! ### A whole transfer -/

/-- The end of a request is sent, acknowledged, and the line is let go. -/
theorem run_close_says (opened : progress.upload.phase = .opened session)
    (holds : session.Holds before said progress.host.client.network.lines)
    (ran : progress.run Upload.close = (.ok (), later)) :
    let whole := said ++ Message.commandComplete.encode
    let sending := progress.host.client.network
    later.upload = { progress.upload with phase := .closed } ∧
      session.Acknowledged "finishing upload" before whole sending ∧
      later.host.client.network = session.close (session.complete "finishing upload" sending).2 ∧
      ∃ line, later.host.client.network.lines = before ++ [line] ∧ line.sent = whole := by
  intro whole sending
  obtain ⟨result, closed, answered, _⟩ := run_cases ran
  have well := answered.mp rfl
  obtain ⟨acknowledged, _, line, lines, ⟨_, ended, sent⟩ | ⟨_, failed, _⟩⟩ :=
    Upload.close_of_opened opened holds closed
  · refine ⟨ended, acknowledged.mp well, ?_, line, lines, sent⟩
    rw [well] at closed
    simp only [Upload.close, opened] at closed
    cases completed : session.complete "finishing upload" sending with
    | mk outcome network =>
      rw [completed] at closed
      cases outcome with
      | error error => cases closed
      | ok nothing =>
        have after := congrArg (fun triple => triple.2.2.network) closed
        simp only [Upload.hangUp, opened] at after
        exact after.symm
  · rw [well] at failed
    cases failed

/-- What was said on the one line of an upload that went well, and how the peer took it. -/
structure Conveyed (put : Wire.PutRequest) (pieces : List Bytes) (network later : Network π) :
    Prop where
  sent : ∃ line, later.lines = network.lines ++ [line] ∧
    line.sent = (Message.put put).encode ++ framesOf pieces ++ Message.commandComplete.encode
  acknowledged : ∃ (session : Session) (sending : Network π),
    session.Acknowledged "finishing upload" network.lines
      ((Message.put put).encode ++ framesOf pieces ++ Message.commandComplete.encode) sending ∧
    later = session.close (session.complete "finishing upload" sending).2

theorem transfer_says {config : ClientConfig} {path : String} {node : Node} {offset length : Nat}
    (pending : progress.upload.phase = .pending)
    (done : transfer config path node offset length progress = (.ok (), later)) :
    ∃ pieces, FitsBuffer config.readBufferSize.toNat pieces ∧ pieces.flatten.length = length ∧
      IsRange node offset pieces.flatten ∧
      later.upload = { progress.upload with
        phase := .closed, written := progress.upload.written + length } ∧
      Conveyed progress.upload.announcement pieces progress.host.client.network
        later.host.client.network := by
  cases ran : progress.run fun upload client => upload.start progress.host.disk client with
  | mk began begun =>
    cases began with
    | error failure =>
      simp only [transfer, ran] at done
      cases done
    | ok _ =>
      obtain ⟨result, started, answered, _⟩ := run_cases ran
      have serves : Upload.Serves progress.host.client.network.lines progress.upload.phase []
          progress.host.client.network.lines := by
        rw [pending]
        exact .pending
      have greeted : progress.upload.greeting = (Message.put progress.upload.announcement).encode := by
        rw [Upload.greeting, pending]
      rcases Upload.start_proceeds serves started with ⟨session, _, opened, holds⟩ | ⟨_, failed, _⟩
      · rw [List.nil_append, greeted] at holds
        have phase : begun.upload.phase = .opened session := by
          rw [opened]
        cases sent : sendRange node config.readBufferSize.toNat offset length begun with
        | mk moving moved =>
          cases moving with
          | error failure =>
            simp only [transfer, ran, sent] at done
            cases done
          | ok _ =>
            obtain ⟨speaker, pieces, fit, size, range, grown, speaks⟩ :=
              sendRange_says phase holds sent
            have still : moved.upload.phase = .opened speaker := by
              rw [grown]
            cases ended : moved.run Upload.close with
            | mk ending last =>
              cases ending with
              | error failure =>
                simp only [transfer, ran, sent, ended] at done
                cases done
              | ok _ =>
                obtain ⟨closed, acknowledged, dropped, line, lines, said⟩ :=
                  run_close_says still speaks ended
                simp only [transfer, ran, sent, ended] at done
                cases done
                refine ⟨pieces, fit, size, range, ?_, ⟨line, lines, said⟩, speaker, _,
                  acknowledged, dropped⟩
                rw [closed, grown, opened]
                rfl
      · rw [answered.mp rfl] at failed
        cases failed

/-! ### Offloads -/

/-- The bytes of a file; what is no file has none. -/
def contentOf : Node → Bytes
  | .file content => content
  | _ => []

theorem IsRange.eq_take {node : Node} {offset : Nat} {data : Bytes} {length : Nat}
    (range : IsRange node offset data) (size : data.length = length) :
    data = ((contentOf node).drop offset).take length := by
  subst size
  by_cases nothing : data = []
  · rw [nothing, List.length_nil, List.take_zero]
  · obtain ⟨content, rfl, same⟩ := range nothing
    exact same

/-- Where a described chunk ends. -/
theorem endOffset_describedChunk (config : ClientConfig) (segment : Segment)
    (modificationCount logPosition : UInt64) {logicalEnd alreadyOffloaded : UInt64}
    (order : alreadyOffloaded.toNat ≤ logicalEnd.toNat) :
    let chunk := describedChunk config segment modificationCount logPosition alreadyOffloaded
      (logicalEnd.toNat - alreadyOffloaded.toNat)
    chunk.byteLength.toNat = logicalEnd.toNat - alreadyOffloaded.toNat ∧
      chunk.endOffset = .ok logicalEnd := by
  intro chunk
  have below := logicalEnd.toNat_lt_size
  have length : chunk.byteLength.toNat = logicalEnd.toNat - alreadyOffloaded.toNat :=
    UInt64.toNat_ofNat_of_lt' (by omega)
  refine ⟨length, addWords_eq_ok_iff.mpr ?_⟩
  change logicalEnd.toNat = alreadyOffloaded.toNat + chunk.byteLength.toNat
  omega

section

variable {config : ClientConfig} {segment : Segment}
  {modificationCount logPosition logicalEnd alreadyOffloaded : UInt64} {path : String}
  {host after : Host π} {node : Node} {chunk : Chunk}

/-- A range that the file does not have, or that ends before it starts, is refused at once. -/
theorem offload_of_no_range (opened : host.disk.openNode path = .ok node)
    (refused : node.size < logicalEnd.toNat ∨ logicalEnd < alreadyOffloaded) :
    ∃ failure, offload config segment modificationCount logPosition path logicalEnd
      alreadyOffloaded host = (.error failure, host) := by
  rw [offload, opened]
  by_cases short : node.size < logicalEnd.toNat
  · simp only [if_pos short]
    exact ⟨_, rfl⟩
  · simp only [if_neg short, if_pos (refused.resolve_left short)]
    exact ⟨_, rfl⟩

theorem transfer_of_offload (done : offload config segment modificationCount logPosition path
      logicalEnd alreadyOffloaded host = (.ok chunk, after)) :
    ∃ node progress, host.disk.openNode path = .ok node ∧ logicalEnd.toNat ≤ node.size ∧
      alreadyOffloaded.toNat ≤ logicalEnd.toNat ∧
      transfer config path node alreadyOffloaded.toNat
          (logicalEnd.toNat - alreadyOffloaded.toNat)
          ⟨Upload.new config segment modificationCount logPosition (UInt64.ofNat node.size), host⟩ =
        (.ok (), progress) ∧
      chunk = progress.upload.chunk alreadyOffloaded ∧ after = progress.host := by
  unfold offload at done
  split at done
  · cases done
  · rename_i node opened
    split at done
    · cases done
    · rename_i long
      split at done
      · cases done
      · rename_i order
        simp only at done
        split at done
        · cases done
        · rename_i progress moved
          cases done
          exact ⟨node, progress, opened, Nat.le_of_not_lt long, Nat.le_of_not_lt order, moved, rfl, rfl⟩

end

/-- An offload of more than the file has, or of less than was offloaded before, fails and leaves
everything as it was, so no connection is attempted.  One that goes well has made one connection,
sent there the announcement of its chunk, the range in pieces that fit the buffer, and the end of the
request, and had them acknowledged; and the chunk describes just that range.  The same holds of an
empty range, for which there is no piece. -/
theorem offload_sends_range (config : ClientConfig) (segment : Segment)
    (modificationCount logPosition : UInt64) (path : String)
    (logicalEnd alreadyOffloaded : UInt64) (host : Host π) :
    let result := offload config segment modificationCount logPosition path logicalEnd
      alreadyOffloaded host
    (∀ node, host.disk.openNode path = .ok node →
      node.size < logicalEnd.toNat ∨ logicalEnd < alreadyOffloaded →
        ∃ failure, result = (.error failure, host)) ∧
    ∀ chunk, result.1 = .ok chunk → ∃ node pieces,
      host.disk.openNode path = .ok node ∧ logicalEnd.toNat ≤ node.size ∧
      alreadyOffloaded.toNat ≤ logicalEnd.toNat ∧
      FitsBuffer config.readBufferSize.toNat pieces ∧
      pieces.flatten = ((contentOf node).drop alreadyOffloaded.toNat).take
        (logicalEnd.toNat - alreadyOffloaded.toNat) ∧
      pieces.flatten.length = chunk.byteLength.toNat ∧
      (∃ put : Wire.PutRequest, put.remotePath = chunk.remotePath ∧
        put = (Upload.new config segment modificationCount logPosition
          (UInt64.ofNat node.size)).announcement ∧
        Conveyed put pieces host.client.network result.2.client.network) ∧
      chunk.remotePath = segment.chunkPath modificationCount logPosition ∧
      chunk.startOffset = alreadyOffloaded ∧
      chunk.byteLength.toNat = logicalEnd.toNat - alreadyOffloaded.toNat ∧
      chunk.endOffset = .ok logicalEnd ∧
      chunk.modificationCount = modificationCount ∧ chunk.logPosition = logPosition ∧
      chunk.encrypted = config.encrypt := by
  intro result
  constructor
  · intro node opened refused
    exact offload_of_no_range opened refused
  · intro chunk made
    obtain ⟨node, progress, opened, long, order, moved, rfl, last⟩ :=
      transfer_of_offload (Prod.ext made rfl)
    obtain ⟨pieces, fit, size, range, upload, conveyed⟩ := transfer_says rfl moved
    have described : progress.upload.chunk alreadyOffloaded =
        describedChunk config segment modificationCount logPosition alreadyOffloaded
          (logicalEnd.toNat - alreadyOffloaded.toNat) := by
      rw [upload]
      change describedChunk config segment modificationCount logPosition alreadyOffloaded
        (0 + (logicalEnd.toNat - alreadyOffloaded.toNat)) = _
      rw [Nat.zero_add]
    obtain ⟨length, ends⟩ :=
      endOffset_describedChunk config segment modificationCount logPosition order
    rw [← last] at conveyed
    rw [described]
    exact ⟨node, pieces, opened, long, order, fit, range.eq_take size, size.trans length.symm,
      ⟨_, rfl, rfl, conveyed⟩, rfl, rfl, length, ends, rfl, rfl, rfl⟩

/-- A host with a file of five bytes, the first read of which gives one byte only. -/
def readingShort : Host ObjectStore where
  client := ⟨⟨ObjectStore.empty, []⟩, []⟩
  disk := { Download.socketDisk with
    nodes := (["f"], .file [1, 2, 3, 4, 5]) :: Download.socketDisk.nodes
    turns := [.upTo 1] }

def inPairs : ClientConfig := { Download.socketConfig with readBufferSize := 2 }

theorem offload_sends_range_from_short_reads :
    let segment : Segment := ⟨0, 1663, 5, "relation", 7, 0⟩
    let result := offload inPairs segment 3 9 "/f" 4 1 readingShort
    let none := offload inPairs segment 3 9 "/f" 4 4 readingShort
    (∃ chunk pieces put, result.1 = .ok chunk ∧ chunk.endOffset = .ok 4 ∧
      pieces.flatten = [2, 3, 4] ∧ FitsBuffer 2 pieces ∧
      Conveyed put pieces readingShort.client.network result.2.client.network) ∧
    (∃ chunk put, none.1 = .ok chunk ∧ chunk.byteLength.toNat = 0 ∧
      Conveyed put [] readingShort.client.network none.2.client.network) ∧
    ∃ failure, offload inPairs segment 3 9 "/f" 6 1 readingShort = (.error failure, readingShort) := by
  intro segment result none
  have opened : readingShort.disk.openNode "/f" = .ok (.file [1, 2, 3, 4, 5]) := by decide +kernel
  have sends (logicalEnd alreadyOffloaded : UInt64) :=
    offload_sends_range inPairs segment 3 9 "/f" logicalEnd alreadyOffloaded readingShort
  refine ⟨?_, ?_, (sends 6 1).1 _ opened (.inl (by decide))⟩
  · have went : result.1.isOk = true := by decide +kernel
    cases made : result.1 with
    | error failure =>
      rw [made] at went
      cases went
    | ok chunk =>
      obtain ⟨node, pieces, found, _, _, fit, whole, _, ⟨put, _, _, conveyed⟩, _, _, _, ends, _⟩ :=
        (sends 4 1).2 chunk made
      rw [opened] at found
      cases found
      exact ⟨chunk, pieces, put, rfl, ends, whole, fit, conveyed⟩
  · have went : none.1.isOk = true := by decide +kernel
    cases made : none.1 with
    | error failure =>
      rw [made] at went
      cases went
    | ok chunk =>
      obtain ⟨node, pieces, found, _, _, fit, whole, _, ⟨put, _, _, conveyed⟩, _, _, size, _⟩ :=
        (sends 4 4).2 chunk made
      have empty : pieces = [] := by
        cases pieces with
        | nil => rfl
        | cons first rest =>
          rw [Nat.sub_self, List.take_zero] at whole
          exact absurd (List.append_eq_nil_iff.mp whole).1 (fit first List.mem_cons_self).1
      rw [empty] at conveyed
      exact ⟨chunk, put, rfl, size, conveyed⟩

end SegmentOffload.Offload
