import SegmentOffload.Proofs.OffloadedRange
import SegmentOffload.Proofs.UploadConversation

/-!
An offload is a conversation.

Whatever becomes of it, an offload makes calls on one upload and does nothing else with its
connection: it starts the upload, writes pieces of the file that fit the buffer, closes it, and lets
go of what is left open.  So what holds of every conversation holds of offloads too, also of those
that fail.
-/

namespace SegmentOffload.Offload

open Upload (Call Conversation Keeps script)

variable {π : Type} [Peer π] {begun : Conversation π} {calls : List (Call × Disk)}
  {progress later : Progress π} {outcome : Except Failure Unit}

/-! ### Calls so far -/

/-- An upload on its way is where some calls have brought it. -/
structure Follows (begun : Conversation π) (calls : List (Call × Disk)) (progress : Progress π) :
    Prop where
  upload : (begun.run calls).upload = progress.upload
  client : (begun.run calls).client = progress.host.client

/-- Calls that write no more than the buffer holds at a time, and never nothing. -/
def WithinBuffer (bufferSize : Nat) (calls : List (Call × Disk)) : Prop :=
  ∀ call ∈ calls, ∀ data, call.1 = .write data → data ≠ [] ∧ data.length ≤ bufferSize

theorem WithinBuffer.append {bufferSize : Nat} {more : List (Call × Disk)}
    (within : WithinBuffer bufferSize calls) (further : WithinBuffer bufferSize more) :
    WithinBuffer bufferSize (calls ++ more) := by
  intro call listed
  rcases List.mem_append.mp listed with earlier | here
  · exact within call earlier
  · exact further call here

theorem withinBuffer_singleton {bufferSize : Nat} {call : Call} (disk : Disk)
    (fits : ∀ data, call = .write data → data ≠ [] ∧ data.length ≤ bufferSize) :
    WithinBuffer bufferSize [(call, disk)] := by
  intro other listed
  rw [List.mem_singleton.mp listed]
  exact fits

/-- One step is one call more, and its answer is the last one. -/
theorem Follows.run (follows : Follows begun calls progress) (call : Call) (disk : Disk)
    (ran : (progress.run fun upload client => upload.answer disk client call) = (outcome, later)) :
    Follows begun (calls ++ [(call, disk)]) later ∧
      (outcome = .ok () → (call, .ok ()) ∈ (begun.run (calls ++ [(call, disk)])).answers) := by
  obtain ⟨result, answered, well, _⟩ := run_cases ran
  have stepped : begun.run (calls ++ [(call, disk)]) =
      ⟨later.upload, later.host.client, (begun.run calls).answers ++ [(call, result)]⟩ := by
    rw [Conversation.run_append]
    change (begun.run calls).step (call, disk) = _
    rw [Conversation.step, follows.upload, follows.client, answered]
  rw [stepped]
  constructor
  · constructor
    · rw [stepped]
    · rw [stepped]
  · intro went
    rw [well.mp went]
    exact List.mem_concat_self

/-! ### One offload -/

/-- A range is sent by writing pieces; reading the file does not touch the upload. -/
theorem sendRange_follows {node : Node} {bufferSize offset remaining : Nat}
    (follows : Follows begun calls progress)
    (done : sendRange node bufferSize offset remaining progress = (outcome, later)) :
    ∃ writes, WithinBuffer bufferSize writes ∧ Follows begun (calls ++ writes) later := by
  have nothing : WithinBuffer bufferSize [] := by
    intro call impossible
    cases impossible
  fun_induction sendRange node bufferSize offset remaining progress generalizing calls with
  | case1 =>
    cases done
    exact ⟨[], nothing, by rwa [List.append_nil]⟩
  | case2 =>
    cases done
    exact ⟨[], nothing, by rw [List.append_nil]; exact ⟨follows.upload, follows.client⟩⟩
  | case3 =>
    cases done
    exact ⟨[], nothing, by rw [List.append_nil]; exact ⟨follows.upload, follows.client⟩⟩
  | case4 offset remaining progress owing first rest disk read data reading =>
    rename_i ran
    cases done
    have still : Follows begun calls reading := ⟨follows.upload, follows.client⟩
    have limited : data.length ≤ min remaining bufferSize := (isRange_readAt read).1
    refine ⟨[(.write data, disk)], withinBuffer_singleton disk ?_,
      (still.run (.write data) disk ran).1⟩
    intro piece same
    cases same
    exact ⟨List.cons_ne_nil first rest, by omega⟩
  | case5 offset remaining progress owing first rest disk read data reading moved ran =>
    rename_i ih
    have still : Follows begun calls reading := ⟨follows.upload, follows.client⟩
    have limited : data.length ≤ min remaining bufferSize := (isRange_readAt read).1
    obtain ⟨writes, within, further⟩ := ih (still.run (.write data) disk ran).1 done
    have written : WithinBuffer bufferSize [(.write data, disk)] := by
      apply withinBuffer_singleton
      intro piece same
      cases same
      exact ⟨List.cons_ne_nil first rest, by omega⟩
    rw [List.append_assoc] at further
    exact ⟨(.write data, disk) :: writes, written.append within, further⟩

/-- A transfer starts, writes and closes, as far as it comes. -/
theorem transfer_follows {config : ClientConfig} {path : String} {node : Node}
    {offset length : Nat} (follows : Follows begun [] progress)
    (done : transfer config path node offset length progress = (outcome, later)) :
    ∃ calls, WithinBuffer config.readBufferSize.toNat calls ∧ Follows begun calls later ∧
      (outcome = .ok () → (.close, .ok ()) ∈ (begun.run calls).answers) := by
  have unwritten (call : Call) (plain : ∀ data, call ≠ .write data) (disk : Disk) :
      WithinBuffer config.readBufferSize.toNat [(call, disk)] := by
    apply withinBuffer_singleton
    intro data same
    exact absurd same (plain data)
  have opening := unwritten .start (fun _ => Call.noConfusion) progress.host.disk
  cases ran : progress.run fun upload client => upload.start progress.host.disk client with
  | mk began first =>
    have started := (follows.run .start progress.host.disk ran).1
    rw [List.nil_append] at started
    cases began with
    | error failure =>
      simp only [transfer, ran] at done
      cases done
      exact ⟨_, opening, started, by simp⟩
    | ok _ =>
      cases sent : sendRange node config.readBufferSize.toNat offset length first with
      | mk moving moved =>
        obtain ⟨writes, within, wrote⟩ := sendRange_follows started sent
        cases moving with
        | error failure =>
          simp only [transfer, ran, sent] at done
          cases done
          exact ⟨_, opening.append within, wrote, by simp⟩
        | ok _ =>
          cases ended : moved.run Upload.close with
          | mk ending last =>
            obtain ⟨closed, well⟩ := wrote.run .close moved.host.disk ended
            have whole := (opening.append within).append
              (unwritten .close (fun _ => Call.noConfusion) moved.host.disk)
            simp only [transfer, ran, sent, ended] at done
            cases ending with
            | error failure =>
              cases done
              exact ⟨_, whole, closed, by simp⟩
            | ok _ =>
              cases done
              exact ⟨_, whole, closed, well⟩

/-- Every offload is the conversation of one upload, abandoned at its end.  One that never came to
start the upload made no calls. -/
theorem offload_follows {config : ClientConfig} {segment : Segment}
    {modificationCount logPosition : UInt64} {path : String}
    {logicalEnd alreadyOffloaded : UInt64} {host after : Host π} {made : Except Failure Chunk}
    (done : offload config segment modificationCount logPosition path logicalEnd alreadyOffloaded
      host = (made, after)) :
    ∃ plannedLength calls,
      let upload := Upload.new config segment modificationCount logPosition plannedLength
      let now := (Conversation.ofUpload upload host.client).run calls
      WithinBuffer config.readBufferSize.toNat calls ∧
        after.client = now.upload.abandon now.client ∧
        (made.isOk → (.close, .ok ()) ∈ now.answers) := by
  have untouched (failure : Failure) : ∃ plannedLength calls,
      let upload := Upload.new config segment modificationCount logPosition plannedLength
      let now := (Conversation.ofUpload upload host.client).run calls
      WithinBuffer config.readBufferSize.toNat calls ∧
        host.client = now.upload.abandon now.client ∧
        ((.error failure : Except Failure Chunk).isOk → (.close, .ok ()) ∈ now.answers) := by
    refine ⟨0, [], ?_, rfl, by simp [Except.isOk, Except.toBool]⟩
    intro call impossible
    cases impossible
  unfold offload at done
  split at done
  · cases done
    exact untouched _
  · rename_i node _
    split at done
    · cases done
      exact untouched _
    · split at done
      · cases done
        exact untouched _
      · let upload :=
          Upload.new config segment modificationCount logPosition (UInt64.ofNat node.size)
        let begun := Conversation.ofUpload upload host.client
        have fresh : Follows begun [] ⟨upload, host⟩ := ⟨rfl, rfl⟩
        dsimp only at done
        split at done
        · rename_i transferred
          obtain ⟨calls, within, follows, _⟩ := transfer_follows fresh transferred
          cases done
          refine ⟨UInt64.ofNat node.size, calls, within, ?_, by simp [Except.isOk, Except.toBool]⟩
          rw [follows.upload, follows.client]
        · rename_i transferred
          obtain ⟨calls, within, follows, well⟩ := transfer_follows fresh transferred
          have keeps := Upload.run_keeps (Upload.keeps_ofUpload config segment modificationCount
            logPosition (UInt64.ofNat node.size) host.client) calls
          have closed := (Upload.sealed_of_mem keeps (well rfl)).phase
          cases done
          refine ⟨UInt64.ofNat node.size, calls, within, ?_, fun _ => well rfl⟩
          rw [Upload.abandon, closed]
          exact follows.client.symm

end SegmentOffload.Offload
