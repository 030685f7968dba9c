import Mathlib.Data.List.TakeWhile
import SegmentOffload.Peer.ObjectStore
import SegmentOffload.Proofs.UploadCalls

/-!
What an upload says over a whole conversation.

However an upload is called, and whatever its peer and its connection do, it makes one connection at
most and follows one script there: the announcement, one frame for each piece that is not empty, and
at the first close the end of the request.  A close is answered well only when all of that went out
and was acknowledged; after it, and after any failure, nothing more is said.
-/

namespace SegmentOffload

open Wire (Message PutRequest)

namespace Upload

variable {π : Type} [Peer π]

/-! ### Conversations -/

inductive Call where
  | start
  | write (data : Bytes)
  | close
deriving DecidableEq, Repr

def answer (upload : Upload) (disk : Disk) (client : Client π) :
    Call → Except ClientError Unit × Upload × Client π
  | .start => upload.start disk client
  | .write data => upload.write data disk client
  | .close => upload.close client

/-- An upload that is being called. -/
structure Conversation (π : Type) where
  upload : Upload
  client : Client π
  /-- Every call so far, with its answer. -/
  answers : List (Call × Except ClientError Unit)

namespace Conversation

def ofUpload (upload : Upload) (client : Client π) : Conversation π := ⟨upload, client, []⟩

/-- One call, with the disk that it finds its socket on. -/
def step (conversation : Conversation π) (call : Call × Disk) : Conversation π :=
  let (outcome, upload, client) := conversation.upload.answer call.2 conversation.client call.1
  ⟨upload, client, conversation.answers ++ [(call.1, outcome)]⟩

def run (conversation : Conversation π) (calls : List (Call × Disk)) : Conversation π :=
  calls.foldl step conversation

theorem answers_run (conversation : Conversation π) (calls : List (Call × Disk)) :
    (conversation.run calls).answers.map Prod.fst =
      conversation.answers.map Prod.fst ++ calls.map Prod.fst := by
  induction calls generalizing conversation with
  | nil => exact (List.append_nil _).symm
  | cons call rest ih =>
    rw [run, List.foldl_cons]
    refine (ih (conversation.step call)).trans ?_
    rw [step, List.map_append, List.append_assoc]
    rfl

theorem run_append (conversation : Conversation π) (calls more : List (Call × Disk)) :
    conversation.run (calls ++ more) = (conversation.run calls).run more :=
  List.foldl_append

/-- Calls that move nothing only add their answers. -/
theorem run_of_unmoved (conversation : Conversation π) {settled : Call → Except ClientError Unit}
    (unmoved : ∀ call disk, conversation.upload.answer disk conversation.client call =
      (settled call, conversation.upload, conversation.client)) (calls : List (Call × Disk)) :
    conversation.run calls =
      { conversation with
        answers := conversation.answers ++ calls.map fun call => (call.1, settled call.1) } := by
  induction calls generalizing conversation with
  | nil => rw [List.map_nil, List.append_nil]; rfl
  | cons call rest ih =>
    let next := { conversation with answers := conversation.answers ++ [(call.1, settled call.1)] }
    have stepped : conversation.step call = next := by rw [step, unmoved]
    rw [run, List.foldl_cons, stepped]
    refine (ih next unmoved).trans ?_
    rw [List.map_cons, List.append_assoc]
    rfl

end Conversation

/-! ### The script -/

/-- The frame of a call behind the announcement. -/
def Call.frame : Call → Bytes
  | start => []
  | write data => pieceFrame data
  | close => Message.commandComplete.encode

/-- What calls make an upload say when all goes well: the calls before the first close announce it
and send their pieces, and the close ends the request.  When the first call is a close, there is
nothing to say. -/
def script (request : PutRequest) (calls : List Call) : Bytes :=
  let spoken := calls.takeWhile (· ≠ .close)
  if spoken = [] then []
  else
    (Message.put request).encode ++ spoken.flatMap Call.frame ++
      if .close ∈ calls then Message.commandComplete.encode else []

variable {request : PutRequest} {calls : List Call}

theorem takeWhile_append_of_closed (closed : .close ∈ calls) (more : List Call) :
    (calls ++ more).takeWhile (· ≠ .close) = calls.takeWhile (· ≠ .close) := by
  have cut : (calls.takeWhile (· ≠ .close)).length ≠ calls.length := by
    intro whole
    have same := (List.takeWhile_prefix (· ≠ Call.close)).eq_of_length whole
    have apart := List.takeWhile_eq_self_iff.mp same .close closed
    exact absurd rfl (of_decide_eq_true apart)
  rw [List.takeWhile_append, if_neg cut]

theorem takeWhile_of_open (talking : ∀ call ∈ calls, call ≠ .close) :
    calls.takeWhile (· ≠ .close) = calls := by
  rw [List.takeWhile_eq_self_iff]
  intro call listed
  exact decide_eq_true (talking call listed)

theorem script_append_of_closed (closed : .close ∈ calls) (more : List Call) :
    script request (calls ++ more) = script request calls := by
  have both : .close ∈ calls ++ more := List.mem_append_left more closed
  rw [script, script, takeWhile_append_of_closed closed]
  simp only [closed, both, if_true]

theorem script_of_open (talking : ∀ call ∈ calls, call ≠ .close) :
    script request calls =
      if calls = [] then [] else (Message.put request).encode ++ calls.flatMap Call.frame := by
  have unsealed : Call.close ∉ calls := fun listed => talking _ listed rfl
  rw [script, takeWhile_of_open talking]
  simp only [unsealed, if_false, List.append_nil]

theorem script_append_of_open (talking : ∀ call ∈ calls, call ≠ .close) (begun : calls ≠ [])
    (call : Call) : script request (calls ++ [call]) = script request calls ++ call.frame := by
  by_cases last : call = .close
  · have both : .close ∈ calls ++ [call] := by
      rw [last]
      exact List.mem_concat_self
    have unsealed : Call.close ∉ calls := fun listed => talking _ listed rfl
    have front : (calls ++ [call]).takeWhile (· ≠ .close) = calls := by
      rw [List.takeWhile_append_of_pos fun call listed => decide_eq_true (talking call listed),
        last]
      exact List.append_nil calls
    rw [script_of_open talking, if_neg begun, script, front]
    simp only [begun, both, if_true, if_false]
    rw [last, Call.frame]
  · have more : ∀ other ∈ calls ++ [call], other ≠ .close := by
      intro other listed
      rcases List.mem_append.mp listed with earlier | here
      · exact talking other earlier
      · rw [List.mem_singleton.mp here]
        exact last
    rw [script_of_open talking, script_of_open more, if_neg begun,
      if_neg (List.append_ne_nil_of_left_ne_nil begun _), List.flatMap_append,
      List.flatMap_singleton, List.append_assoc]

theorem script_isPrefix (calls : List Call) (call : Call) :
    script request calls <+: script request (calls ++ [call]) := by
  by_cases closed : .close ∈ calls
  · simp only [script_append_of_closed closed, List.prefix_rfl]
  · by_cases begun : calls = []
    · rw [begun]
      exact List.nil_prefix
    · have talking : ∀ call ∈ calls, call ≠ .close := by
        intro other listed same
        rw [same] at listed
        exact closed listed
      rw [script_append_of_open talking begun]
      exact List.prefix_append _ _

/-! ### Counts over the answers -/

/-- How many calls said that a connection was tried and not made. -/
def refusals (answers : List (Call × Except ClientError Unit)) : Nat :=
  answers.countP fun answer => isConnectFailure answer.2

/-- The bytes that a call wrote. -/
def writtenBy : Call × Except ClientError Unit → Nat
  | (.write data, .ok ()) => data.length
  | _ => 0

def writtenLength (answers : List (Call × Except ClientError Unit)) : Nat :=
  (answers.map writtenBy).sum

variable {answers : List (Call × Except ClientError Unit)}

theorem refusals_concat (answer : Call × Except ClientError Unit) :
    refusals (answers ++ [answer]) = refusals answers + (isConnectFailure answer.2).toNat := by
  rw [refusals, List.countP_append, List.countP_singleton]
  cases isConnectFailure answer.2 <;> rfl

theorem refusals_of_ok (well : ∀ answer ∈ answers, answer.2 = .ok ()) : refusals answers = 0 := by
  rw [refusals, List.countP_eq_zero]
  intro answer listed refused
  rw [well answer listed] at refused
  cases refused

theorem writtenLength_concat (answer : Call × Except ClientError Unit) :
    writtenLength (answers ++ [answer]) = writtenLength answers + writtenBy answer := by
  rw [writtenLength, List.map_append, List.sum_append_nat]
  rfl

/-! ### The invariant -/

/-- An upload that serves has said all of the script: it is pending until the first call, and each
call so far went well and was no close. -/
structure Serving (request : PutRequest) (before : List Line) (conversation : Conversation π) :
    Prop where
  serves : Serves before conversation.upload.phase
    (script request (conversation.answers.map Prod.fst)) conversation.client.network.lines
  begun : conversation.upload.phase = .pending ↔ conversation.answers = []
  well : ∀ answer ∈ conversation.answers, answer.1 ≠ .close ∧ answer.2 = .ok ()

/-- An upload that was closed well has said all of the script. -/
structure Sealed (request : PutRequest) (before : List Line) (conversation : Conversation π) :
    Prop where
  phase : conversation.upload.phase = .closed
  said : ∃ made, conversation.client.network.lines = before ++ made ∧
    made.length + refusals conversation.answers ≤ 1 ∧
    made.flatMap Line.sent = script request (conversation.answers.map Prod.fst)
  closed : (.close, .ok ()) ∈ conversation.answers

/-- An upload that failed has said the front of the script. -/
structure Broken (request : PutRequest) (before : List Line) (conversation : Conversation π) :
    Prop where
  phase : conversation.upload.phase = .failed
  leaves : Leaves before (script request (conversation.answers.map Prod.fst))
    (refusals conversation.answers) conversation.client.network.lines
  unsealed : (.close, .ok ()) ∉ conversation.answers
  failure : ∃ answer ∈ conversation.answers, answer.2 ≠ .ok ()

/-- What every call of a conversation keeps. -/
structure Keeps (request : PutRequest) (before : List Line) (conversation : Conversation π) :
    Prop where
  announcement : conversation.upload.announcement = request
  written : conversation.upload.written = writtenLength conversation.answers
  stands : Serving request before conversation ∨ Sealed request before conversation ∨
    Broken request before conversation

section

variable {before : List Line} {conversation : Conversation π} {call : Call} {after : Client π}

omit [Peer π]

theorem keeps_ofUpload (config : ClientConfig) (segment : Segment)
    (modificationCount logPosition plannedLength : UInt64) (client : Client π) :
    let upload := Upload.new config segment modificationCount logPosition plannedLength
    Keeps upload.announcement client.network.lines (.ofUpload upload client) := by
  refine ⟨rfl, rfl, Or.inl ⟨.pending, ⟨fun _ => rfl, fun _ => rfl⟩, ?_⟩⟩
  intro answer impossible
  cases impossible

theorem sealed_of_mem (keeps : Keeps request before conversation)
    (closed : (.close, .ok ()) ∈ conversation.answers) : Sealed request before conversation := by
  rcases keeps.stands with serving | sealed | broken
  · exact absurd rfl (serving.well _ closed).1
  · exact sealed
  · exact absurd closed broken.unsealed

theorem broken_of_mem (keeps : Keeps request before conversation)
    (unsealed : (.close, .ok ()) ∉ conversation.answers)
    (failure : ∃ answer ∈ conversation.answers, answer.2 ≠ .ok ()) :
    Broken request before conversation := by
  rcases keeps.stands with serving | sealed | broken
  · obtain ⟨answer, listed, wrong⟩ := failure
    exact absurd (serving.well answer listed).2 wrong
  · exact absurd sealed.closed unsealed
  · exact broken

/-- At most one connection is made or refused, and what is said there is the front of the script;
it is all of it unless a call failed before a close went well. -/
theorem said_of_keeps (keeps : Keeps request before conversation) :
    ∃ made, conversation.client.network.lines = before ++ made ∧
      made.length + refusals conversation.answers ≤ 1 ∧
      made.flatMap Line.sent <+: script request (conversation.answers.map Prod.fst) ∧
      ((.close, .ok ()) ∈ conversation.answers ∨
          (∀ answer ∈ conversation.answers, answer.2 = .ok ()) →
        made.flatMap Line.sent = script request (conversation.answers.map Prod.fst)) := by
  rcases keeps.stands with serving | sealed | broken
  · have none : refusals conversation.answers = 0 :=
      refusals_of_ok fun answer listed => (serving.well answer listed).2
    obtain ⟨made, lines, few, whole⟩ := serving.serves.made
    exact ⟨made, lines, by rw [none]; exact few, whole ▸ List.prefix_rfl, fun _ => whole⟩
  · obtain ⟨made, lines, few, whole⟩ := sealed.said
    exact ⟨made, lines, few, whole ▸ List.prefix_rfl, fun _ => whole⟩
  · obtain ⟨made, lines, few, front⟩ := broken.leaves
    refine ⟨made, lines, few, front, ?_⟩
    rintro (closed | well)
    · exact absurd closed broken.unsealed
    · obtain ⟨answer, listed, wrong⟩ := broken.failure
      exact absurd (well answer listed) wrong

/-! ### A call while the upload serves -/

theorem Serving.talking (serving : Serving request before conversation) :
    ∀ call ∈ conversation.answers.map Prod.fst, call ≠ .close := by
  rw [List.forall_mem_map]
  intro answer listed
  exact (serving.well answer listed).1

/-- A call that writes adds its frame to the script, behind the announcement if it is the first. -/
theorem script_concat (announces : conversation.upload.announcement = request)
    (serving : Serving request before conversation) (speaks : call ≠ .close) :
    script request (conversation.answers.map Prod.fst ++ [call]) =
      script request (conversation.answers.map Prod.fst) ++ conversation.upload.greeting ++
        call.frame := by
  by_cases pending : conversation.upload.phase = .pending
  · -- nothing was said before, so the call itself brings the announcement
    rw [serving.begun.mp pending, greeting, pending, announces, List.map_nil, List.nil_append,
      script_of_open (List.forall_mem_singleton.mpr speaks), if_neg (List.cons_ne_nil _ _),
      List.flatMap_singleton]
    rfl
  · have spoken : conversation.answers.map Prod.fst ≠ [] := by
      rw [ne_eq, List.map_eq_nil_iff, ← serving.begun]
      exact pending
    have greeted : conversation.upload.greeting = [] := by
      unfold greeting
      split
      · rename_i impossible
        exact absurd impossible pending
      · rfl
    rw [script_append_of_open serving.talking spoken, greeted, List.append_nil]

theorem refusals_of_serving (serving : Serving request before conversation)
    (outcome : Except ClientError Unit) :
    refusals (conversation.answers ++ [(call, outcome)]) = (isConnectFailure outcome).toNat := by
  rw [refusals_concat, refusals_of_ok fun answer listed => (serving.well answer listed).2,
    Nat.zero_add]

/-- A call that fails leaves the front of the script behind. -/
theorem keeps_of_failure {error : ClientError} (keeps : Keeps request before conversation)
    (serving : Serving request before conversation)
    (leaves : Leaves before (script request (conversation.answers.map Prod.fst ++ [call]))
      (isConnectFailure (.error error)).toNat after.network.lines) :
    Keeps request before ⟨{ conversation.upload with phase := .failed }, after,
      conversation.answers ++ [(call, .error error)]⟩ := by
  refine ⟨keeps.announcement, ?_, Or.inr (Or.inr ⟨rfl, ?_, ?_, ?_⟩)⟩
  · have nothing : writtenBy (call, .error error) = 0 := by cases call <;> rfl
    rw [writtenLength_concat, nothing]
    exact keeps.written
  · rw [refusals_of_serving serving, List.map_append]
    exact leaves
  · intro listed
    rcases List.mem_append.mp listed with earlier | here
    · exact (serving.well _ earlier).1 rfl
    · cases List.mem_singleton.mp here
  · refine ⟨_, List.mem_concat_self, ?_⟩
    intro impossible
    cases impossible

/-- A call that writes keeps the invariant, whether it goes well or not. -/
theorem keeps_of_proceeds {data : Bytes} {later : Upload} {outcome : Except ClientError Unit}
    (keeps : Keeps request before conversation) (serving : Serving request before conversation)
    (speaks : call ≠ .close) (counts : writtenBy (call, .ok ()) = data.length)
    (proceeds : Proceeds before
      (script request (conversation.answers.map Prod.fst) ++ conversation.upload.greeting ++
        call.frame) data.length conversation.upload later outcome after.network.lines) :
    Keeps request before ⟨later, after, conversation.answers ++ [(call, outcome)]⟩ := by
  rw [← script_concat keeps.announcement serving speaks] at proceeds
  rcases proceeds with ⟨session, rfl, rfl, holds⟩ | ⟨error, rfl, rfl, leaves⟩
  · refine ⟨keeps.announcement, ?_, Or.inl ⟨.opened ?_, ?_, ?_⟩⟩
    · rw [writtenLength_concat, counts, ← keeps.written]
    · rw [List.map_append]
      exact holds
    · constructor
      · intro impossible
        cases impossible
      · intro impossible
        exact absurd impossible (List.append_ne_nil_of_right_ne_nil _ (List.cons_ne_nil _ _))
    · intro answer listed
      rcases List.mem_append.mp listed with earlier | here
      · exact serving.well answer earlier
      · rw [List.mem_singleton.mp here]
        exact ⟨speaks, rfl⟩
  · exact keeps_of_failure keeps serving leaves

/-- A close that goes well has said all of the script. -/
theorem keeps_of_closing {made : List Line} (keeps : Keeps request before conversation)
    (serving : Serving request before conversation) (lines : after.network.lines = before ++ made)
    (few : made.length ≤ 1)
    (whole : made.flatMap Line.sent =
      script request (conversation.answers.map Prod.fst ++ [.close])) :
    Keeps request before ⟨{ conversation.upload with phase := .closed }, after,
      conversation.answers ++ [(.close, .ok ())]⟩ := by
  refine ⟨keeps.announcement, ?_, Or.inr (Or.inl ⟨rfl, ⟨made, lines, ?_, ?_⟩, ?_⟩)⟩
  · rw [writtenLength_concat]
    exact keeps.written
  · rw [refusals_of_serving serving]
    exact few
  · rw [List.map_append]
    exact whole
  · exact List.mem_concat_self

/-- Behind an open upload the script goes on with the end of the request. -/
theorem script_of_serving {session : Session} (serving : Serving request before conversation)
    (opened : conversation.upload.phase = .opened session) :
    script request (conversation.answers.map Prod.fst) =
        (Message.put request).encode ++
          (conversation.answers.map Prod.fst).flatMap Call.frame ∧
      script request (conversation.answers.map Prod.fst ++ [.close]) =
        script request (conversation.answers.map Prod.fst) ++
          Message.commandComplete.encode := by
  have spoken : conversation.answers.map Prod.fst ≠ [] := by
    rw [ne_eq, List.map_eq_nil_iff, ← serving.begun, opened]
    intro impossible
    cases impossible
  refine ⟨?_, script_append_of_open serving.talking spoken .close⟩
  rw [script_of_open serving.talking, if_neg spoken]

end

variable {before : List Line} {conversation : Conversation π}

theorem close_keeps {later : Upload} {after : Client π} {outcome : Except ClientError Unit}
    (keeps : Keeps request before conversation) (serving : Serving request before conversation)
    (closed : conversation.upload.close conversation.client = (outcome, later, after)) :
    Keeps request before ⟨later, after, conversation.answers ++ [(.close, outcome)]⟩ := by
  have serves := serving.serves
  cases phase : conversation.upload.phase with
  | pending =>
    rw [phase] at serves
    rw [close, phase] at closed
    cases closed
    obtain ⟨made, lines, few, whole⟩ := serves.made
    refine keeps_of_closing keeps serving lines few (whole.trans ?_)
    rw [serving.begun.mp phase]
    rfl
  | opened session =>
    rw [phase] at serves
    obtain ⟨_, usual, line, lines, well | ⟨error, rfl, rfl, front⟩⟩ :=
      close_of_opened phase serves.holds closed
    · obtain ⟨rfl, rfl, whole⟩ := well
      refine keeps_of_closing keeps serving lines (Nat.le_refl _) ?_
      rw [(script_of_serving serving phase).2, List.flatMap_singleton]
      exact whole
    · refine keeps_of_failure keeps serving ?_
      rw [usual, (script_of_serving serving phase).2]
      exact leaves_last lines front
  | closed =>
    rw [phase] at serves
    cases serves
  | failed =>
    rw [phase] at serves
    cases serves

/-! ### A call on an upload that is settled -/

def answerAfterClose (remotePath : String) : Call → Except ClientError Unit
  | .close => .ok ()
  | _ => .error (.protocolViolation s!"open on closed writer for {remotePath}")

def answerAfterFailure (remotePath : String) : Call → Except ClientError Unit
  | .close => .error (.protocolViolation s!"close on failed writer for {remotePath}")
  | _ => .error (.protocolViolation s!"open on failed writer for {remotePath}")

theorem answer_of_closed {upload : Upload} (closed : upload.phase = .closed) (disk : Disk)
    (client : Client π) (call : Call) :
    upload.answer disk client call =
      (answerAfterClose upload.remotePath call, upload, client) := by
  cases call with
  | start =>
    rw [answer, start_of_phase (Or.inl closed), rejected, closed]
    rfl
  | write data =>
    rw [answer, write_of_phase (Or.inl closed), rejected, closed]
    rfl
  | close => rw [answer, close, closed, answerAfterClose]

theorem answer_of_failed {upload : Upload} (failed : upload.phase = .failed) (disk : Disk)
    (client : Client π) (call : Call) :
    upload.answer disk client call =
      (answerAfterFailure upload.remotePath call, upload, client) := by
  cases call with
  | start =>
    rw [answer, start_of_phase (Or.inr failed), rejected, failed]
    rfl
  | write data =>
    rw [answer, write_of_phase (Or.inr failed), rejected, failed]
    rfl
  | close =>
    rw [answer, close, failed, rejected, failed]
    rfl

/-- An answer that is no failed connection and wrote nothing changes no count. -/
theorem counts_of_settled {call : Call} {outcome : Except ClientError Unit}
    (settled : (∃ path, outcome = answerAfterClose path call) ∨
      ∃ path, outcome = answerAfterFailure path call) :
    isConnectFailure outcome = false ∧ writtenBy (call, outcome) = 0 := by
  rcases settled with ⟨path, rfl⟩ | ⟨path, rfl⟩
  · cases call <;> exact ⟨rfl, rfl⟩
  · cases call <;> exact ⟨rfl, rfl⟩

theorem step_of_sealed (keeps : Keeps request before conversation)
    (closed : Sealed request before conversation) (call : Call × Disk) :
    Keeps request before (conversation.step call) := by
  obtain ⟨usual, nothing⟩ := counts_of_settled (Or.inl ⟨conversation.upload.remotePath, rfl⟩)
  obtain ⟨made, lines, few, whole⟩ := closed.said
  rw [Conversation.step, answer_of_closed closed.phase]
  refine ⟨keeps.announcement, ?_, Or.inr (Or.inl ⟨closed.phase, ⟨made, lines, ?_, ?_⟩, ?_⟩)⟩
  · rw [writtenLength_concat, nothing]
    exact keeps.written
  · rw [refusals_concat, usual]
    exact few
  · rw [List.map_append, script_append_of_closed]
    · exact whole
    · exact List.mem_map_of_mem closed.closed
  · exact List.mem_append_left _ closed.closed

theorem step_of_broken (keeps : Keeps request before conversation)
    (broken : Broken request before conversation) (call : Call × Disk) :
    Keeps request before (conversation.step call) := by
  obtain ⟨usual, nothing⟩ := counts_of_settled (Or.inr ⟨conversation.upload.remotePath, rfl⟩)
  obtain ⟨answer, listed, wrong⟩ := broken.failure
  rw [Conversation.step, answer_of_failed broken.phase]
  refine ⟨keeps.announcement, ?_, Or.inr (Or.inr ⟨broken.phase, ?_, ?_, ?_⟩)⟩
  · rw [writtenLength_concat, nothing]
    exact keeps.written
  · rw [refusals_concat, usual, List.map_append]
    exact leaves_mono broken.leaves (script_isPrefix _ _)
  · intro sealed
    rcases List.mem_append.mp sealed with earlier | here
    · exact broken.unsealed earlier
    · obtain ⟨call, disk⟩ := call
      have impossible := List.mem_singleton.mp here
      cases call <;> cases impossible
  · exact ⟨answer, List.mem_append_left _ listed, wrong⟩

/-! ### Any calls -/

theorem step_keeps (keeps : Keeps request before conversation) (call : Call × Disk) :
    Keeps request before (conversation.step call) := by
  rcases keeps.stands with serving | closed | broken
  · obtain ⟨call, disk⟩ := call
    cases answered : conversation.upload.answer disk conversation.client call with
    | mk outcome rest =>
      rw [Conversation.step, answered]
      cases call with
      | start =>
        rw [answer, ← write_nil] at answered
        have proceeds := write_proceeds serving.serves answered
        exact keeps_of_proceeds keeps serving Call.noConfusion rfl proceeds
      | write data =>
        have proceeds := write_proceeds serving.serves answered
        exact keeps_of_proceeds keeps serving Call.noConfusion rfl proceeds
      | close => exact close_keeps keeps serving answered
  · exact step_of_sealed keeps closed call
  · exact step_of_broken keeps broken call

theorem run_keeps (keeps : Keeps request before conversation) (calls : List (Call × Disk)) :
    Keeps request before (conversation.run calls) := by
  induction calls generalizing conversation with
  | nil => exact keeps
  | cons call rest ih => exact ih (step_keeps keeps call)

omit [Peer π] in
theorem serving_of_opened (keeps : Keeps request before conversation) {session : Session}
    (opened : conversation.upload.phase = .opened session) :
    Serving request before conversation := by
  rcases keeps.stands with serving | sealed | broken
  · exact serving
  · rw [sealed.phase] at opened
    cases opened
  · rw [broken.phase] at opened
    cases opened

/-- A close of an open upload goes well exactly when everything was said and acknowledged. -/
theorem close_eq_ok_iff (keeps : Keeps request before conversation) {session : Session}
    (opened : conversation.upload.phase = .opened session) :
    (conversation.upload.close conversation.client).1 = .ok () ↔
      session.Acknowledged "finishing upload" before
        ((Message.put request).encode ++ (conversation.answers.map Prod.fst).flatMap Call.frame ++
          Message.commandComplete.encode) conversation.client.network := by
  have serving := serving_of_opened keeps opened
  have serves := serving.serves
  rw [opened, (script_of_serving serving opened).1] at serves
  exact (close_of_opened opened serves.holds rfl).1

/-- However an upload is called, and whatever its peer does:

* it makes one connection at most, and says there the front of its script, which is the announcement
  of what was settled when the upload was made, a frame for each piece that is not empty, and at the
  first close the end of the request; as long as all goes well it says all of it;
* it counts the bytes of the writes that went well;
* a close of an open upload goes well exactly when the whole script went out and the next message to
  arrive is the acknowledgement;
* after a close that went well, and after any failure before, calls move nothing. -/
theorem conversation_follows_script (config : ClientConfig) (segment : Segment)
    (modificationCount logPosition plannedLength : UInt64) (client : Client π)
    (calls : List (Call × Disk)) :
    let request : PutRequest :=
      { remotePath := segment.chunkPath modificationCount logPosition
        encrypt := config.encrypt
        storageClass := config.storageClass
        multipartChunkSize := config.multipartChunkSize
        multipartUpload := decide (config.multipartThreshold < plannedLength)
        tableSpace := config.tableSpace }
    let begun := Conversation.ofUpload
      (Upload.new config segment modificationCount logPosition plannedLength) client
    let now := begun.run calls
    let asked := calls.map Prod.fst
    now.answers.map Prod.fst = asked ∧
    (∃ made, now.client.network.lines = client.network.lines ++ made ∧
      made.length + refusals now.answers ≤ 1 ∧
      made.flatMap Line.sent <+: script request asked ∧
      ((.close, .ok ()) ∈ now.answers ∨ (∀ answer ∈ now.answers, answer.2 = .ok ()) →
        made.flatMap Line.sent = script request asked)) ∧
    now.upload.written = writtenLength now.answers ∧
    (∀ session, now.upload.phase = .opened session →
      ((now.upload.close now.client).1 = .ok () ↔
        session.Acknowledged "finishing upload" client.network.lines
          ((Message.put request).encode ++ asked.flatMap Call.frame ++
            Message.commandComplete.encode) now.client.network)) ∧
    ((.close, .ok ()) ∈ now.answers → ∀ more, begun.run (calls ++ more) =
      { now with
        answers := now.answers ++ more.map fun call =>
          (call.1, answerAfterClose request.remotePath call.1) }) ∧
    ((.close, .ok ()) ∉ now.answers → (∃ answer ∈ now.answers, answer.2 ≠ .ok ()) →
      ∀ more, begun.run (calls ++ more) =
        { now with
          answers := now.answers ++ more.map fun call =>
            (call.1, answerAfterFailure request.remotePath call.1) }) := by
  intro request begun now asked
  have keeps : Keeps request client.network.lines now :=
    run_keeps (keeps_ofUpload config segment modificationCount logPosition plannedLength client)
      calls
  have named : now.upload.remotePath = request.remotePath :=
    congrArg PutRequest.remotePath keeps.announcement
  have heard : now.answers.map Prod.fst = asked := begun.answers_run calls
  refine ⟨heard, ?_, keeps.written, ?_, ?_, ?_⟩
  · rw [← heard]
    exact said_of_keeps keeps
  · intro session opened
    rw [← heard]
    exact close_eq_ok_iff keeps opened
  · intro closed more
    rw [Conversation.run_append, ← named]
    refine now.run_of_unmoved ?_ more
    intro call disk
    exact answer_of_closed (sealed_of_mem keeps closed).phase disk now.client call
  · intro unsealed failure more
    rw [Conversation.run_append, ← named]
    refine now.run_of_unmoved ?_ more
    intro call disk
    exact answer_of_failed (broken_of_mem keeps unsealed failure).phase disk now.client call

/-- A disk whose socket a store answers, and an upload of two bytes over it. -/
def storeDisk : Disk := { Disk.empty with nodes := [(["s"], .socket)] }

def storeConfig : ClientConfig := { ClientConfig.default with socketPath := "/s" }

def storeClient : Client ObjectStore := ⟨⟨ObjectStore.empty, []⟩, []⟩

def smallSegment : Segment := ⟨0, 1663, 5, "relation", 7, 0⟩

def smallUpload : Conversation ObjectStore :=
  .ofUpload (.new storeConfig smallSegment 1 2 2) storeClient

def smallCalls : List (Call × Disk) :=
  [(.start, storeDisk), (.write [], storeDisk), (.write [1, 2], storeDisk)]

/-- The two bytes are announced, sent and acknowledged, nothing moves once the upload is closed, and
nothing moves once its socket was not found. -/
theorem smallUpload_follows_script :
    let sealing := smallCalls ++ [(.close, storeDisk)]
    let failing := [(Call.start, Disk.empty)]
    (∃ line : Line,
      line.sent = (Message.put smallUpload.upload.announcement).encode ++
        (Message.copyData [1, 2]).encode ++ Message.commandComplete.encode ∧
      (Wire.readMessage line.arrivals).1 = .ok .readyForQuery) ∧
    smallUpload.run (sealing ++ [(.write [3], storeDisk)]) =
      { smallUpload.run sealing with
        answers := (smallUpload.run sealing).answers ++
          [(.write [3], answerAfterClose (smallSegment.chunkPath 1 2) (.write [3]))] } ∧
    smallUpload.run (failing ++ [(.close, storeDisk)]) =
      { smallUpload.run failing with
        answers := (smallUpload.run failing).answers ++
          [(.close, answerAfterFailure (smallSegment.chunkPath 1 2) .close)] } := by
  intro sealing failing
  have follows := conversation_follows_script storeConfig smallSegment 1 2 2 storeClient
  refine ⟨?_, ?_, ?_⟩
  · obtain ⟨_, _, _, acknowledged, _⟩ := follows smallCalls
    have opened : (smallUpload.run smallCalls).upload.phase =
        .opened ⟨"/s", smallSegment.chunkPath 1 2, 0⟩ := by decide +kernel
    have closed : ((smallUpload.run smallCalls).upload.close
        (smallUpload.run smallCalls).client).1 = .ok () := by decide +kernel
    unfold smallUpload at opened closed
    obtain ⟨_, line, _, _, sent, ready⟩ := (acknowledged _ opened).mp closed
    exact ⟨line, sent, ready⟩
  · obtain ⟨_, _, _, _, sealed, _⟩ := follows sealing
    have closed : (Call.close, .ok ()) ∈ (smallUpload.run sealing).answers := by decide +kernel
    exact sealed closed [(.write [3], storeDisk)]
  · obtain ⟨_, _, _, _, _, broken⟩ := follows failing
    have unsealed : (Call.close, .ok ()) ∉ (smallUpload.run failing).answers := by decide +kernel
    have failure : ∃ answer ∈ (smallUpload.run failing).answers, answer.2 ≠ .ok () := by
      decide +kernel
    exact broken unsealed failure [(.close, storeDisk)]

end Upload

end SegmentOffload
