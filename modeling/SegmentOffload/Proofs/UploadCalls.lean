import SegmentOffload.Proofs.Connections
import SegmentOffload.Upload

/-!
What each call of an upload does to its connection.

A call that goes well has put its frames, whole, behind what was sent before; a call that fails has
put the front of them there and let the connection go.  An upload that is closed or has failed
answers without touching anything.
-/

namespace SegmentOffload

open Wire (Message)

/-- Whether a call says that a connection was tried and not made. -/
def isConnectFailure : Except ClientError Unit → Bool
  | .error (.connect ..) => true
  | _ => false

/-! ### Sessions on the line made last -/

/-- At most one line was made or refused, and what was sent there is the front of some bytes. -/
def Leaves (before : List Line) (said : Bytes) (refused : Nat) (lines : List Line) : Prop :=
  ∃ made, lines = before ++ made ∧ made.length + refused ≤ 1 ∧ made.flatMap Line.sent <+: said

theorem leaves_last {before lines : List Line} {line : Line} {said : Bytes}
    (same : lines = before ++ [line]) (front : line.sent <+: said) :
    Leaves before said 0 lines := by
  refine ⟨[line], same, Nat.le_refl _, ?_⟩
  rw [List.flatMap_singleton]
  exact front

theorem leaves_mono {before lines : List Line} {said more : Bytes} {refused : Nat}
    (leaves : Leaves before said refused lines) (front : said <+: more) :
    Leaves before more refused lines := by
  obtain ⟨made, same, few, within⟩ := leaves
  exact ⟨made, same, few, within.trans front⟩

variable {π : Type} [Peer π]

namespace Session

variable {before : List Line} {said : Bytes} {session : Session} {action : String}
  {network later : Network π} {outcome : Except ClientError Unit}

theorem send_of_holds {frame : Bytes} (holds : session.Holds before said network.lines)
    (sent : session.send frame action network = (outcome, later)) :
    isConnectFailure outcome = false ∧
      (outcome = .ok () → session.Holds before (said ++ frame) later.lines) ∧
      ∃ line, later.lines = before ++ [line] ∧ line.sent <+: said ++ frame := by
  rcases holds.send sent with
    ⟨rfl, place, line, lines, held, same⟩ | ⟨error, line, rfl, lines, _, front⟩
  · refine ⟨rfl, fun _ => ⟨place, line, lines, held, same⟩, line, lines, ?_⟩
    rewrite [same]
    exact List.prefix_rfl
  · refine ⟨rfl, ?_, line, lines, front⟩
    intro impossible
    cases impossible

/-- The answer is awaited on the line as it stands, and nothing more is sent there. -/
theorem expectReady_of_last {line : Line} (place : session.connection = before.length)
    (lines : network.lines = before ++ [line]) (held : line.isOpen = true)
    (answered : session.expectReady action network = (outcome, later)) :
    isConnectFailure outcome = false ∧
      (outcome = .ok () ↔ (Wire.readMessage line.arrivals).1 = .ok .readyForQuery) ∧
      ∃ heard, later.lines = before ++ [heard] ∧ heard.sent = line.sent := by
  cases taken : network.receive before.length with
  | mk result middle =>
    obtain ⟨found, same⟩ := Network.receive_last lines held taken
    obtain ⟨released, last, _, kept⟩ := Network.release_last found
    rw [expectReady, receive, place, taken] at answered
    rw [← same]
    cases result with
    | error error =>
      cases answered
      refine ⟨?_, ?_, released, ?_, kept⟩
      · cases error <;> rfl
      · constructor <;> intro impossible <;> cases impossible
      · rw [close, place]
        exact last
    | ok message =>
      by_cases ready : message = .readyForQuery
      · rw [ready] at answered
        cases answered
        exact ⟨rfl, ⟨fun _ => by rw [ready], fun _ => rfl⟩, _, found, rfl⟩
      · simp only at answered
        cases answered
        refine ⟨rfl, ?_, released, ?_, kept⟩
        · constructor
          · intro impossible
            cases impossible
          · intro impossible
            cases impossible
            exact absurd rfl ready
        · rw [close, place]
          exact last

/-- The end of the request goes out, all that was to be said stands on the line then, and the next
message to arrive there is the acknowledgement. -/
def Acknowledged (session : Session) (action : String) (before : List Line) (whole : Bytes)
    (network : Network π) : Prop :=
  ∃ middle line, session.send Message.commandComplete.encode action network = (.ok (), middle) ∧
    middle.lines = before ++ [line] ∧ line.sent = whole ∧
    (Wire.readMessage line.arrivals).1 = .ok .readyForQuery

theorem complete_of_holds (holds : session.Holds before said network.lines)
    (completed : session.complete action network = (outcome, later)) :
    let whole := said ++ Message.commandComplete.encode
    isConnectFailure outcome = false ∧
      (outcome = .ok () ↔ session.Acknowledged action before whole network) ∧
      ∃ line, later.lines = before ++ [line] ∧ line.sent <+: whole ∧
        (outcome = .ok () → line.sent = whole) := by
  intro whole
  cases taken : session.send Message.commandComplete.encode action network with
  | mk result middle =>
    obtain ⟨usual, holding, line, lines, front⟩ := send_of_holds holds taken
    rw [complete, taken] at completed
    cases result with
    | error error =>
      cases completed
      refine ⟨usual, ?_, line, lines, front, ?_⟩
      · constructor
        · intro impossible
          cases impossible
        · rintro ⟨_, _, impossible, _⟩
          rw [taken] at impossible
          cases impossible
      · intro impossible
        cases impossible
    | ok nothing =>
      obtain ⟨place, spoken, found, held, same⟩ := holding rfl
      obtain ⟨usual, ready, heard, last, kept⟩ := expectReady_of_last place found held completed
      have grown : heard.sent = whole := kept.trans same
      refine ⟨usual, ?_, heard, last, grown ▸ List.prefix_rfl, fun _ => grown⟩
      rw [ready]
      constructor
      · intro acknowledged
        exact ⟨middle, spoken, taken, found, same, acknowledged⟩
      · rintro ⟨other, line, sent, there, _, acknowledged⟩
        rw [taken] at sent
        cases sent
        rw [found] at there
        cases List.append_cancel_left there
        exact acknowledged

end Session

namespace Upload

variable {before : List Line} {said : Bytes} {upload later : Upload} {client after : Client π}
  {outcome : Except ClientError Unit}

/-! ### Answers that touch nothing -/

/-- Starting is the same as writing nothing. -/
theorem write_nil (disk : Disk) : upload.write [] disk client = upload.start disk client := by
  rw [write]
  split
  · rename_i found
    exact found.symm
  · rename_i found
    exact found.symm

theorem start_of_phase (settled : upload.phase = .closed ∨ upload.phase = .failed) (disk : Disk) :
    upload.start disk client = (.error (upload.rejected "open"), upload, client) := by
  rcases settled with closed | failed
  · rw [start, closed]
  · rw [start, failed]

theorem write_of_phase (settled : upload.phase = .closed ∨ upload.phase = .failed) (data : Bytes)
    (disk : Disk) :
    upload.write data disk client = (.error (upload.rejected "open"), upload, client) := by
  rw [write, start_of_phase settled]

/-! ### Starting -/

/-- The announcement, while it is still to be sent. -/
def greeting (upload : Upload) : Bytes :=
  match upload.phase with
  | .pending => (Message.put upload.announcement).encode
  | _ => []

/-- An upload that was not started has said nothing, and an open one holds its line. -/
inductive Serves (before : List Line) : UploadPhase → (said : Bytes) → List Line → Prop where
  | pending : Serves before .pending [] before
  | opened {session : Session} {said : Bytes} {lines : List Line}
    (holds : session.Holds before said lines) : Serves before (.opened session) said lines

theorem Serves.made {phase : UploadPhase} {lines : List Line}
    (serves : Serves before phase said lines) :
    ∃ made, lines = before ++ made ∧ made.length ≤ 1 ∧ made.flatMap Line.sent = said := by
  cases serves with
  | pending => exact ⟨[], (List.append_nil _).symm, Nat.zero_le _, rfl⟩
  | opened holds =>
    obtain ⟨_, line, lines, _, same⟩ := holds
    exact ⟨[line], lines, Nat.le_refl _, by rw [List.flatMap_singleton]; exact same⟩

theorem Serves.holds {session : Session} {lines : List Line}
    (serves : Serves before (.opened session) said lines) : session.Holds before said lines := by
  cases serves
  assumption

/-- Letting go of the line takes nothing back of what was sent there. -/
theorem hangUp_lines (client : Client π) {session : Session} {line : Line}
    (opened : upload.phase = .opened session) (place : session.connection = before.length)
    (lines : client.network.lines = before ++ [line]) :
    ∃ dropped, (upload.hangUp client).network.lines = before ++ [dropped] ∧
      dropped.sent = line.sent := by
  rw [hangUp, opened]
  change ∃ dropped, (client.network.release session.connection).lines = _ ∧ _
  rw [place]
  obtain ⟨dropped, last, _, kept⟩ := Network.release_last lines
  exact ⟨dropped, last, kept⟩

theorem announce_cases {disk : Disk} {network later : Network π}
    {outcome : Except ClientError Session}
    (announced : upload.announce disk network = (outcome, later)) :
    let put := (Message.put upload.announcement).encode
    (∃ session, outcome = .ok session ∧ session.Holds network.lines put later.lines) ∨
      ∃ error, outcome = .error error ∧
        Leaves network.lines put (isConnectFailure (.error error)).toNat later.lines := by
  intro put
  cases connected : Session.connect disk upload.config.socketPath upload.remotePath network with
  | mk result middle =>
    rw [announce, connected] at announced
    cases result with
    | error error =>
      obtain ⟨same, cause, rfl⟩ := Session.connect_refused connected
      cases announced
      refine Or.inr ⟨_, rfl, [], ?_, Nat.le_refl _, List.nil_prefix⟩
      rw [List.append_nil]
      exact same
    | ok session =>
      have holds := Session.connect_holds connected
      simp only at announced
      split at announced
      · rename_i error last sent
        cases announced
        obtain ⟨usual, _, line, lines, front⟩ := Session.send_of_holds holds sent
        refine Or.inr ⟨error, rfl, ?_⟩
        rw [usual]
        exact leaves_last lines front
      · rename_i last sent
        cases announced
        exact Or.inl ⟨_, rfl, (Session.send_of_holds holds sent).2.1 rfl⟩

/-- What a call makes of an upload that serves: it has said so much more, or it has failed. -/
def Proceeds (before : List Line) (said : Bytes) (count : Nat) (upload later : Upload)
    (outcome : Except ClientError Unit) (lines : List Line) : Prop :=
  (∃ session, outcome = .ok () ∧
      later = { upload with phase := .opened session, written := upload.written + count } ∧
      session.Holds before said lines) ∨
    ∃ error, outcome = .error error ∧ later = { upload with phase := .failed } ∧
      Leaves before said (isConnectFailure (.error error)).toNat lines

theorem start_proceeds {disk : Disk} (serves : Serves before upload.phase said client.network.lines)
    (started : upload.start disk client = (outcome, later, after)) :
    Proceeds before (said ++ upload.greeting) 0 upload later outcome after.network.lines := by
  -- the upload is taken apart so that its phase is the one it serves in
  cases upload with
  | mk config modificationCount logPosition remotePath isMultipart phase written =>
  cases serves with
  | opened holds =>
    cases started
    refine Or.inl ⟨_, rfl, rfl, ?_⟩
    rw [greeting, List.append_nil]
    exact holds
  | pending =>
    simp only [start] at started
    split at started
    · rename_i session network announced
      cases started
      rcases announce_cases announced with ⟨_, same, holds⟩ | ⟨_, impossible, _⟩
      · cases same
        exact Or.inl ⟨session, rfl, rfl, holds⟩
      · cases impossible
    · rename_i error network announced
      cases started
      rcases announce_cases announced with ⟨_, impossible, _⟩ | ⟨_, same, leaves⟩
      · cases impossible
      · cases same
        exact Or.inr ⟨error, rfl, rfl, leaves⟩

/-! ### Writing -/

/-- The frame of a piece, when there is one. -/
def pieceFrame (data : Bytes) : Bytes :=
  if data = [] then [] else (Message.copyData data).encode

theorem sendPiece_proceeds {session : Session} {data : Bytes}
    (opened : upload.phase = .opened session)
    (holds : session.Holds before said client.network.lines)
    (sent : upload.sendPiece data client = (outcome, later, after)) :
    Proceeds before (said ++ (Message.copyData data).encode) data.length upload later outcome
      after.network.lines := by
  simp only [sendPiece, opened] at sent
  split at sent
  · rename_i network taken
    cases sent
    refine Or.inl ⟨session, rfl, ?_, (Session.send_of_holds holds taken).2.1 rfl⟩
    rw [← opened]
  · rename_i error network taken
    cases sent
    obtain ⟨usual, _, line, lines, front⟩ := Session.send_of_holds holds taken
    obtain ⟨dropped, last, kept⟩ := hangUp_lines { client with network } opened holds.1 lines
    refine Or.inr ⟨error, rfl, rfl, ?_⟩
    rw [usual]
    exact leaves_last last (by rw [kept]; exact front)

theorem write_proceeds {data : Bytes} {disk : Disk}
    (serves : Serves before upload.phase said client.network.lines)
    (wrote : upload.write data disk client = (outcome, later, after)) :
    Proceeds before (said ++ upload.greeting ++ pieceFrame data) data.length upload later outcome
      after.network.lines := by
  cases started : upload.start disk client with
  | mk result rest =>
    obtain ⟨middle, held⟩ := rest
    rw [write, started] at wrote
    rcases start_proceeds serves started with ⟨session, rfl, rfl, holds⟩ | ⟨error, rfl, rfl, leaves⟩
    · simp only at wrote
      split at wrote
      · rename_i nothing
        cases wrote
        rw [List.isEmpty_iff.mp nothing, pieceFrame, if_pos rfl, List.append_nil]
        exact Or.inl ⟨session, rfl, rfl, holds⟩
      · rename_i nonempty
        rw [pieceFrame, if_neg (by rw [← List.isEmpty_iff]; exact nonempty)]
        -- the upload that was started has written no more than before
        have proceeds := sendPiece_proceeds rfl holds wrote
        exact proceeds
    · cases wrote
      exact Or.inr ⟨error, rfl, rfl, leaves_mono leaves (List.prefix_append _ _)⟩

/-! ### Closing -/

theorem close_of_opened {session : Session} (opened : upload.phase = .opened session)
    (holds : session.Holds before said client.network.lines)
    (closed : upload.close client = (outcome, later, after)) :
    let whole := said ++ Message.commandComplete.encode
    (outcome = .ok () ↔
        session.Acknowledged "finishing upload" before whole client.network) ∧
      isConnectFailure outcome = false ∧
      ∃ line, after.network.lines = before ++ [line] ∧
        (outcome = .ok () ∧ later = { upload with phase := .closed } ∧ line.sent = whole ∨
          ∃ error, outcome = .error error ∧ later = { upload with phase := .failed } ∧
            line.sent <+: whole) := by
  intro whole
  simp only [close, opened] at closed
  split at closed
  · rename_i network completed
    cases closed
    obtain ⟨usual, exactly, line, lines, _, whole⟩ := Session.complete_of_holds holds completed
    obtain ⟨dropped, last, kept⟩ := hangUp_lines { client with network } opened holds.1 lines
    exact ⟨exactly, usual, dropped, last, Or.inl ⟨rfl, rfl, by rw [kept]; exact whole rfl⟩⟩
  · rename_i error network completed
    cases closed
    obtain ⟨usual, exactly, line, lines, front, _⟩ := Session.complete_of_holds holds completed
    obtain ⟨dropped, last, kept⟩ := hangUp_lines { client with network } opened holds.1 lines
    exact ⟨exactly, usual, dropped, last, Or.inr ⟨error, rfl, rfl, by rw [kept]; exact front⟩⟩

end Upload

end SegmentOffload
