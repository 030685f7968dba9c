import SegmentOffload.Proofs.DownloadCursor

/-!
What a download asks its peer for, over a whole run.

Each connection carries one question: for the chunk at the cursor, from the offset of the cursor on.
When it cannot be sent whole, its front is all that goes over that connection.  The cursor never
moves back, so chunks are asked for in their order, from their first byte first, and not again once
they are complete.  A connection is tried only when none is open.
-/

namespace SegmentOffload

namespace Download

variable {π : Type} [Peer π]

/-! ### Questions -/

/-- How the rest of a chunk is asked for; the request is an extended one unless the rest is all. -/
def catFrame (config : ClientConfig) (chunk : Chunk) (start : Nat) : Bytes :=
  (Wire.Message.cat
    { remotePath := chunk.remotePath
      decrypt := chunk.encrypted
      extended := decide (0 < start)
      startOffset := UInt64.ofNat start
      settings := [("TableSpace", config.tableSpace)] }).encode

theorem encode_question (config : ClientConfig) (chunk : Chunk) {start : Nat}
    (small : start < UInt64.size) :
    (question config chunk start).encode = catFrame config chunk start := by
  have extended : (UInt64.ofNat start != 0) = decide (0 < start) := by
    rw [Bool.eq_iff_iff, bne_iff_ne, decide_eq_true_iff, Nat.pos_iff_ne_zero, not_iff_not,
      ← UInt64.toNat_inj, UInt64.toNat_ofNat_of_lt' small]
    rfl
  rw [question, Wire.CatRequest.resuming, extended]
  rfl

namespace Trial

/-- The bytes of the chunk at the position that are handed out before the attempt. -/
def offset (trial : Trial π) : Nat := trial.reading.download.offset

/-- Whether a new connection is made, be it that the question is cut short. -/
def connected (trial : Trial π) : Bool :=
  trial.contact = .cutShort || trial.contact = .made

end Trial

/-- What an attempt sends over the connection that it makes. -/
def Asks (config : ClientConfig) (chunks : List Chunk) (trial : Trial π) (sent : Bytes) : Prop :=
  ∃ chunk, chunks[trial.position]? = some chunk ∧
    sent <+: catFrame config chunk trial.offset ∧
    (trial.contact = .made → sent = catFrame config chunk trial.offset)

/-! ### Connections of a download -/

/-- The lines that a download has made, after those that were there before, with what it said on
each of them.  All are let go, but for the last one while the download streams from it. -/
inductive Talking (before : List Line) :
    DownloadPhase → (said : List Bytes) → List Line → Prop where
  | streaming {session : Session} {said : Bytes} {closed lines : List Line} :
    (∀ line ∈ closed, line.isOpen = false) → session.Holds (before ++ closed) said lines →
    Talking before (.streaming session) (closed.map Line.sent ++ [said]) lines
  | silent {phase : DownloadPhase} {closed : List Line} :
    (∀ session, phase ≠ .streaming session) → (∀ line ∈ closed, line.isOpen = false) →
    Talking before phase (closed.map Line.sent) (before ++ closed)

section

variable {before lines : List Line} {phase : DownloadPhase} {said : List Bytes} {session : Session}
  {network later : Network π}

omit [Peer π] in
theorem Talking.own (talking : Talking before phase said lines) :
    ∃ own, lines = before ++ own ∧ own.map Line.sent = said ∧ own.countP Line.isOpen ≤ 1 ∧
      ((∀ session, phase ≠ .streaming session) → ∀ line ∈ own, line.isOpen = false) := by
  cases talking with
  | @streaming session last closed lines shut holds =>
    obtain ⟨_, line, same, held, rfl⟩ := holds
    have none : closed.countP Line.isOpen = 0 := by
      rw [List.countP_eq_zero]
      intro other listed opened
      rw [shut other listed] at opened
      cases opened
    refine ⟨closed ++ [line], by rw [same, List.append_assoc], by rw [List.map_append]; rfl, ?_, ?_⟩
    · rw [List.countP_append, none, List.countP_singleton, held]
      exact Nat.le_refl _
    · intro idle
      exact absurd rfl (idle session)
  | @silent _ closed idle shut =>
    refine ⟨closed, rfl, rfl, ?_, fun _ => shut⟩
    rw [List.countP_eq_zero.mpr]
    · exact Nat.zero_le _
    · intro other listed opened
      rw [shut other listed] at opened
      cases opened

/-- A phase in which nothing is streamed is as good as any other. -/
theorem Talking.idle {other : DownloadPhase} (talking : Talking before phase said lines)
    (silent : ∀ session, phase ≠ .streaming session)
    (quiet : ∀ session, other ≠ .streaming session) : Talking before other said lines := by
  cases talking with
  | streaming => exact absurd rfl (silent _)
  | silent _ shut => exact .silent quiet shut

/-- A line that was held by itself is one of the closed ones from now on. -/
theorem talking_of_closed {closed : List Line} {line : Line}
    (quiet : ∀ session, phase ≠ .streaming session) (shut : ∀ line ∈ closed, line.isOpen = false)
    (same : lines = before ++ closed ++ [line]) (dropped : line.isOpen = false) :
    Talking before phase (closed.map Line.sent ++ [line.sent]) lines := by
  have all : ∀ other ∈ closed ++ [line], other.isOpen = false := by
    intro other listed
    rcases List.mem_append.mp listed with earlier | last
    · exact shut other earlier
    · rw [List.mem_singleton.mp last]
      exact dropped
  have talking : Talking before phase ((closed ++ [line]).map Line.sent)
      (before ++ (closed ++ [line])) := .silent quiet all
  rw [List.map_append, ← List.append_assoc, ← same] at talking
  exact talking

theorem Talking.close {other : DownloadPhase}
    (talking : Talking before (.streaming session) said network.lines)
    (quiet : ∀ session, other ≠ .streaming session) :
    Talking before other said (session.close network).lines := by
  generalize same : network.lines = lines at talking
  cases talking with
  | silent idle => exact absurd rfl (idle session)
  | streaming shut holds =>
    rw [← same] at holds
    obtain ⟨line, there, dropped, rfl⟩ := holds.close
    exact talking_of_closed quiet shut there dropped

omit [Peer π] in
theorem Talking.read {limit : Nat} {outcome : Except IoError Bytes}
    (talking : Talking before (.streaming session) said network.lines)
    (took : session.read limit network = (outcome, later)) :
    Talking before (.streaming session) said later.lines := by
  generalize same : network.lines = lines at talking
  cases talking with
  | silent idle => exact absurd rfl (idle session)
  | streaming shut holds =>
    rw [← same] at holds
    exact .streaming shut (holds.read took)

/-- A question goes over a line of its own: whole, or its front, and then the line is let go. -/
theorem Talking.ask {disk : Disk} {socket remotePath action : String} {frame : Bytes}
    {middle : Network π} {outcome : Except ClientError Unit}
    (talking : Talking before phase said network.lines)
    (idle : ∀ session, phase ≠ .streaming session)
    (connected : Session.connect disk socket remotePath network = (.ok session, middle))
    (sent : session.send frame action middle = (outcome, later)) :
    (outcome = .ok () ∧ Talking before (.streaming session) (said ++ [frame]) later.lines) ∨
      ∃ error heard, outcome = .error error ∧ heard <+: frame ∧
        Talking before phase (said ++ [heard]) later.lines := by
  have holds := Session.connect_holds connected
  generalize network.lines = lines at talking holds
  cases talking with
  | streaming => exact absurd rfl (idle _)
  | silent _ shut =>
    rcases holds.send sent with ⟨rfl, whole⟩ | ⟨error, line, rfl, there, dropped, front⟩
    · exact .inl ⟨rfl, .streaming shut whole⟩
    · exact .inr ⟨_, line.sent, rfl, front, talking_of_closed idle shut there dropped⟩

end

/-! ### One attempt -/

/-- How the outcome of an attempt leaves the lines. -/
def Attempt.Talks (before : List Line) (said : List Bytes) : Attempt π → Prop
  | .bytes _ download client => Talking before download.phase said client.network.lines
  | .endOfStream download client => Talking before download.phase said client.network.lines
  | .failure _ download client => Talking before download.phase said client.network.lines

section

variable {before : List Line} {said : List Bytes} {download : Download} {client : Client π}
  {config : ClientConfig} {chunks : List Chunk} {handed : Bytes} {trial : Trial π}

theorem advance_phase (count : Nat) (download : Download) :
    ((download.advance count).remaining = 0 ∧
        ∀ session, (download.advance count).phase ≠ .streaming session) ∨
      ((download.advance count).remaining ≠ 0 ∧
        (download.advance count).phase = download.phase) := by
  unfold advance
  dsimp only
  split
  · rename_i complete
    refine .inl ⟨complete, ?_⟩
    intro session impossible
    dsimp only at impossible
    split at impossible <;> cases impossible
  · rename_i left
    exact .inr ⟨left, rfl⟩

theorem readFrom_talks {session : Session} {capacity : Nat}
    (streams : download.phase = .streaming session)
    (talking : Talking before (.streaming session) said client.network.lines) :
    (readFrom session capacity download client).Talks before said := by
  unfold readFrom
  split
  · rename_i took
    simp only [Attempt.Talks, streams]
    exact talking.read took
  · rename_i took
    simp only [Attempt.Talks, streams]
    exact talking.read took
  · rename_i data network _ took
    have still := talking.read took
    simp only [Attempt.Talks]
    rcases advance_phase data.length download with ⟨complete, quiet⟩ | ⟨owing, same⟩
    · rw [if_pos complete]
      simp only [hangUp, streams]
      exact still.close quiet
    · rw [if_neg owing, same, streams]
      exact still

/-- After a failure the line is let go, and the other outcomes leave the lines as they are. -/
theorem turn_talks (talks : trial.result.Talks before said) :
    Talking before trial.turn.reading.download.phase said
      trial.turn.reading.client.network.lines := by
  have silenced {failed : Download} {client : Client π} {phase : DownloadPhase}
      (talking : Talking before failed.phase said client.network.lines)
      (quiet : ∀ session, phase ≠ .streaming session) :
      Talking before phase said (failed.hangUp client).network.lines := by
    unfold hangUp
    split
    · rename_i session streams
      rw [streams] at talking
      exact talking.close quiet
    · rename_i idle
      exact talking.idle idle quiet
  unfold Trial.turn
  cases attempted : trial.result with
  | bytes data later client =>
    rw [attempted] at talks
    exact talks
  | endOfStream later client =>
    rw [attempted] at talks
    exact talks
  | failure error failed client =>
    rw [attempted] at talks
    dsimp only
    split
    · apply silenced talks
      intro session impossible
      cases impossible
    · apply silenced talks
      intro session impossible
      cases impossible

/-- An attempt that wants no chunk reads on, or finds the end. -/
theorem untried_talks (talking : Talking before trial.reading.download.phase said
      trial.reading.client.network.lines) (wanted : trial.reading.download.wanted? = none) :
    trial.result.Talks before said := by
  unfold Trial.result
  cases phase : trial.reading.download.phase with
  | streaming session =>
    rw [attempt_of_streaming phase]
    rw [phase] at talking
    exact readFrom_talks phase talking
  | _ =>
    have idle : ∀ session, trial.reading.download.phase ≠ .streaming session := by
      intro session impossible
      rw [phase] at impossible
      cases impossible
    rw [attempt_of_unwanted wanted idle]
    apply talking.idle idle
    intro session impossible
    cases impossible

/-- An attempt that makes a connection asks there for the chunk at the cursor, and any other says
nothing. -/
theorem result_talks (standing : Standing config chunks handed trial.reading.download)
    (talking : Talking before trial.reading.download.phase said
      trial.reading.client.network.lines) :
    (trial.connected = false ∧ trial.result.Talks before said) ∨
      (trial.connected = true ∧ ∃ sent, Asks config chunks trial sent ∧
        trial.result.Talks before (said ++ [sent])) := by
  unfold Trial.connected Asks Trial.result
  cases wanted : trial.reading.download.wanted? with
  | none =>
    have contact : trial.contact = .untried := by
      simp only [Trial.contact, wanted]
    rw [contact]
    exact .inl ⟨rfl, untried_talks talking wanted⟩
  | some chunk =>
    obtain ⟨idle, found⟩ := wanted?_eq_some wanted
    rw [standing.sameChunks] at found
    have small : trial.offset < UInt64.size :=
      Nat.lt_trans (standing.offset_lt found) chunk.byteLength.toNat_lt
    have asked := encode_question config chunk small
    have samePhase := (begin_keeps chunk trial.reading.download).2.2.2.2.2
    rw [attempt_of_wanted wanted, standing.sameConfig, request]
    change (question config chunk trial.reading.download.offset).encode = _ at asked
    rw [asked]
    cases connected : Session.connect trial.disk config.socketPath chunk.remotePath
        trial.reading.client.network with
    | mk outcome middle =>
      cases outcome with
      | error error =>
        obtain ⟨same, _⟩ := Session.connect_refused connected
        have contact : trial.contact = .refused := by
          simp only [Trial.contact, wanted, standing.sameConfig, connected]
        rw [contact]
        refine .inl ⟨rfl, ?_⟩
        simp only [Attempt.Talks, same, samePhase]
        exact talking
      | ok session =>
        cases sent : session.send (catFrame config chunk trial.offset) "requesting chunk"
            middle with
        | mk outcome left =>
          rcases talking.ask idle connected sent with
            ⟨rfl, whole⟩ | ⟨error, heard, rfl, front, cut⟩
          · have contact : trial.contact = .made := by
              simp only [Trial.contact, wanted, standing.sameConfig, connected, asked, sent]
            rw [contact]
            dsimp only
            rw [sent]
            exact .inr ⟨rfl, _, ⟨chunk, found, List.prefix_rfl, fun _ => rfl⟩,
              readFrom_talks rfl whole⟩
          · have contact : trial.contact = .cutShort := by
              simp only [Trial.contact, wanted, standing.sameConfig, connected, asked, sent]
            rw [contact]
            refine .inr ⟨rfl, heard, ⟨chunk, found, front, ?_⟩, ?_⟩
            · intro impossible
              cases impossible
            · dsimp only
              rw [sent]
              simp only [Attempt.Talks, samePhase]
              exact cut

/-! ### The order of the questions -/

/-- An attempt that does not fail has a connection to read from: one that was open, or its own. -/
theorem made_of_succeeded {begun : Download} (succeeded : trial.fails = false)
    (begins : Begins trial.reading.download begun)
    (silent : ∀ session, trial.reading.download.phase ≠ .streaming session) :
    trial.contact = .made := by
  have unfailed : ¬trial.fails = true := by
    rw [succeeded]
    exact Bool.false_ne_true
  rw [trial.fails_iff] at unfailed
  cases begins with
  | streaming streams => exact absurd streams (silent _)
  | anew idle found =>
    have connects : trial.connects = true := by
      rw [Trial.connects, wanted?_of_idle idle, found]
      rfl
    rw [trial.connects_iff] at connects
    cases contact : trial.contact with
    | untried => exact absurd contact connects
    | refused => exact absurd (.inl contact) unfailed
    | cutShort => exact absurd (.inr (.inl contact)) unfailed
    | made => rfl

/-- The cursor never moves back. -/
theorem Moves.forward {next : Reading π} (moves : Moves trial next)
    (standing : Standing config chunks handed trial.reading.download) :
    trial.position < next.download.position ∨
      (trial.position = next.download.position ∧ trial.offset ≤ next.download.offset) := by
  cases moves with
  | ended => exact .inr ⟨rfl, Nat.le_refl _⟩
  | @failed begun phase _ _ begins _ =>
    obtain ⟨owing, consumed, _⟩ := standing.begins begins
    refine .inr ⟨begins.keeps.2.2.1.symm, ?_⟩
    change _ ≤ if begun.remaining = 0 then 0 else begun.consumed
    rw [if_neg owing, consumed]
    exact Nat.le_refl _
  | @handed begun session _ data _ begins _ _ _ =>
    obtain ⟨_, consumed, _⟩ := standing.begins begins
    have position : begun.position = trial.position := begins.keeps.2.2.1
    unfold advance
    dsimp only
    split
    · left
      change trial.position < begun.position + 1
      omega
    · rename_i left
      refine .inr ⟨position.symm, ?_⟩
      change trial.reading.download.offset ≤
        if begun.remaining - data.length = 0 then 0 else begun.consumed + data.length
      rw [if_neg left, consumed]
      exact Nat.le_add_right _ _

/-- Bytes of the chunk at the position, and a connection to read it from, come from a question for
that chunk. -/
theorem Moves.asked {next : Reading π} (moves : Moves trial next)
    (standing : Standing config chunks handed trial.reading.download)
    (begun : (∃ session, next.download.phase = .streaming session) ∨ next.download.offset ≠ 0) :
    trial.position = next.download.position ∧ (trial.contact = .made ∨
      (∃ session, trial.reading.download.phase = .streaming session) ∨ trial.offset ≠ 0) := by
  cases moves with
  | ended =>
    rcases begun with ⟨session, impossible⟩ | inside
    · cases impossible
    · exact ⟨rfl, .inr (.inr inside)⟩
  | @failed opened phase _ _ begins way =>
    obtain ⟨owing, consumed, _⟩ := standing.begins begins
    refine ⟨begins.keeps.2.2.1.symm, .inr (.inr ?_)⟩
    rcases begun with ⟨session, streams⟩ | inside
    · rcases way with ⟨rfl, _⟩ | ⟨⟨account, rfl⟩, _⟩
      · cases streams
      · cases streams
    · change (if opened.remaining = 0 then 0 else opened.consumed) ≠ 0 at inside
      rw [if_neg owing, consumed] at inside
      exact inside
  | @handed opened session _ data succeeded begins _ _ _ =>
    have source : trial.contact = .made ∨
        ∃ session, trial.reading.download.phase = .streaming session := by
      by_cases streams : ∃ session, trial.reading.download.phase = .streaming session
      · exact .inr streams
      · exact .inl (made_of_succeeded succeeded begins (not_exists.mp streams))
    rcases advance_phase data.length { opened with phase := .streaming session } with
      ⟨complete, quiet⟩ | ⟨owing, _⟩
    · rcases begun with ⟨session, streams⟩ | inside
      · exact absurd streams (quiet session)
      · rw [offset, if_pos complete] at inside
        exact absurd rfl inside
    · refine ⟨?_, ?_⟩
      · have position : opened.position = trial.position := begins.keeps.2.2.1
        unfold advance at owing ⊢
        dsimp only at owing ⊢
        split
        · rename_i complete
          rw [if_pos complete] at owing
          exact absurd complete owing
        · exact position.symm
      · rcases source with made | streams
        · exact .inl made
        · exact .inr (.inl streams)

end

/-! ### A whole run -/

/-- What the attempts so far have asked for, and where they have left the download. -/
structure Conversing (config : ClientConfig) (chunks : List Chunk) (before : List Line)
    (trials : List (Trial π)) (reading : Reading π) : Prop where
  standing : Standing config chunks reading.handed reading.download
  spoken : ∃ said, Talking before reading.download.phase said reading.client.network.lines ∧
    List.Forall₂ (Asks config chunks) (trials.filter Trial.connected) said
  reached : ∀ trial ∈ trials, trial.position < reading.download.position ∨
    (trial.position = reading.download.position ∧ trial.offset ≤ reading.download.offset)
  asked : (∃ session, reading.download.phase = .streaming session) ∨ reading.download.offset ≠ 0 →
    ∃ trial ∈ trials, trial.contact = .made ∧ trial.position = reading.download.position

theorem conversing_ofChunks (config : ClientConfig) (chunks : List Chunk) (client : Client π) :
    Conversing config (chunks.filter fun chunk => !chunk.isEmpty) client.network.lines []
      (Reading.ofChunks config chunks client) where
  standing := standing_ofChunks config chunks
  spoken := by
    refine ⟨[], ?_, .nil⟩
    have silent : Talking client.network.lines .idle ([].map Line.sent)
        (client.network.lines ++ []) := by
      apply Talking.silent
      · intro session impossible
        cases impossible
      · intro line impossible
        cases impossible
    rw [List.append_nil] at silent
    exact silent
  reached := by
    intro trial impossible
    cases impossible
  asked := by
    rintro (⟨session, impossible⟩ | impossible)
    · cases impossible
    · exact absurd rfl impossible

theorem conversing_kept (config : ClientConfig) (chunks : List Chunk) (before : List Line) :
    IsKept (π := π) (Conversing config chunks before) := by
  intro trials trial room unfinished conversing
  have standing := conversing.standing
  have moves := turn_moves trial
  have forward := moves.forward standing
  exact {
    standing := standing_kept config chunks trials trial room unfinished standing
    spoken := by
      obtain ⟨said, talking, answers⟩ := conversing.spoken
      rw [List.filter_append, List.filter_singleton]
      rcases result_talks standing talking with ⟨none, talks⟩ | ⟨connected, sent, asks, talks⟩
      · rw [none]
        refine ⟨said, turn_talks talks, ?_⟩
        rw [cond_false, List.append_nil]
        exact answers
      · rw [connected]
        exact ⟨said ++ [sent], turn_talks talks, List.rel_append answers (.cons asks .nil)⟩
    reached := by
      intro other listed
      rcases List.mem_append.mp listed with earlier | last
      · have reached : other.position < trial.position ∨
            (other.position = trial.position ∧ other.offset ≤ trial.offset) :=
          conversing.reached other earlier
        omega
      · rw [List.mem_singleton.mp last]
        exact forward
    asked := by
      intro begun
      obtain ⟨position, source⟩ := moves.asked standing begun
      rcases source with made | earlier
      · exact ⟨trial, List.mem_concat_self, made, position⟩
      · obtain ⟨other, listed, made, same⟩ := conversing.asked earlier
        exact ⟨other, List.mem_append_left _ listed, made, same.trans position⟩ }

/-- An attempt in its place among those of a run: it has room for bytes, the cursor stands inside a
chunk behind all bytes that were handed out, no earlier attempt was further on, what was handed out
of the chunk was asked for before, and a connection is tried only when none is open. -/
structure InTurn (chunks : List Chunk) (before : List Line) (earlier : List (Trial π))
    (trial : Trial π) : Prop where
  room : 0 < trial.capacity
  unfinished : trial.reading.download.phase.isFinal = false
  cursor : trial.reading.handed.length =
    chunkSize (chunks.take trial.position) + trial.offset
  inside : ∀ chunk, chunks[trial.position]? = some chunk → trial.offset < chunk.byteLength.toNat
  reached : ∀ other ∈ earlier, other.position < trial.position ∨
    (other.position = trial.position ∧ other.offset ≤ trial.offset)
  first : (∀ other ∈ earlier, other.contact = .made → other.position ≠ trial.position) →
    trial.offset = 0
  single : ∃ own, trial.reading.client.network.lines = before ++ own ∧
    own.countP Line.isOpen ≤ 1 ∧ (trial.connects = true → ∀ line ∈ own, line.isOpen = false)

theorem Conversing.inTurn {config : ClientConfig} {chunks : List Chunk} {before : List Line}
    {earlier : List (Trial π)} {trial : Trial π} (room : 0 < trial.capacity)
    (unfinished : trial.reading.download.phase.isFinal = false)
    (conversing : Conversing config chunks before earlier trial.reading) :
    InTurn chunks before earlier trial where
  room := room
  unfinished := unfinished
  cursor := conversing.standing.handedAll.trans conversing.standing.counted
  inside := by
    intro chunk found
    exact conversing.standing.offset_lt found
  reached := conversing.reached
  first := by
    intro none
    by_contra inside
    obtain ⟨other, listed, made, same⟩ := conversing.asked (.inr inside)
    exact none other listed made same
  single := by
    obtain ⟨said, talking, _⟩ := conversing.spoken
    obtain ⟨own, lines, _, few, silent⟩ := talking.own
    refine ⟨own, lines, few, ?_⟩
    intro connects
    apply silent
    obtain ⟨chunk, wanted⟩ := Option.isSome_iff_exists.mp connects
    exact (wanted?_eq_some wanted).1

/-- Whatever calls are made on a download, and whatever its peer does: the connections that it makes
carry one question each, for the chunk and from the offset that the cursor gives; of the attempts,
each comes in its turn; and at most one connection is left open. -/
theorem requests_follow_cursor (config : ClientConfig) (chunks : List Chunk) (client : Client π)
    (calls : List Call) :
    let filled := chunks.filter fun chunk => !chunk.isEmpty
    let start := Reading.ofChunks config chunks client
    let before := client.network.lines
    ∃ trials own, Calls start calls trials (start.run calls) ∧
      (start.run calls).client.network.lines = before ++ own ∧
      List.Forall₂ (fun trial line => Asks config filled trial line.sent)
        (trials.filter Trial.connected) own ∧
      own.countP Line.isOpen ≤ 1 ∧
      ∀ earlier trial later, trials = earlier ++ trial :: later →
        InTurn filled before earlier trial := by
  intro filled start before
  have kept := conversing_kept (π := π) config filled before
  have begun : Conversing config filled before [] start :=
    conversing_ofChunks config chunks client
  obtain ⟨trials, called⟩ := calls_run start calls
  have ended := called.keeps kept begun
  rw [List.nil_append] at ended
  obtain ⟨said, talking, answers⟩ := ended.spoken
  obtain ⟨own, lines, rfl, few, _⟩ := talking.own
  rw [List.forall₂_map_right_iff] at answers
  refine ⟨trials, own, called, lines, answers, few, ?_⟩
  intro earlier trial later split
  obtain ⟨room, unfinished, conversing⟩ := called.at_each kept begun split
  exact conversing.inTurn room unfinished

end Download

end SegmentOffload
