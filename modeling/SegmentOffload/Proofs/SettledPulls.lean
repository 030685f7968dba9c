import SegmentOffload.Proofs.LoadHoldings

/-!
What a pull comes to among others.

The others see to the numbers of the connections, and to nothing else: whether the socket can be
reached was settled at the start, and what arrives on a connection goes by what was asked there.  So
a pull hands out the same bytes, or fails in the same way, whoever else is at work.
-/

namespace SegmentOffload

open Disk (IsSettled)
open Host (onClient onNetwork)

/-- The phase with the connection under another number. -/
def DownloadPhase.through (connection : Nat) : DownloadPhase → DownloadPhase
  | .streaming session => .streaming { session with connection }
  | phase => phase

namespace Download

/-- The download with its connection under another number. -/
def through (connection : Nat) (download : Download) : Download :=
  { download with phase := download.phase.through connection }

theorem through_of_idle {download : Download} (idle : ∀ session, download.phase ≠ .streaming session)
    (connection : Nat) : download.through connection = download := by
  obtain ⟨config, chunks, position, remaining, consumed, failures, phase, delivered⟩ := download
  cases phase with
  | streaming session => exact absurd rfl (idle session)
  | _ => rfl

theorem advance_through (download : Download) (connection count : Nat) :
    (download.through connection).advance count = (download.advance count).through connection := by
  by_cases complete : download.remaining - count = 0
  · by_cases last : download.chunks.length ≤ download.position + 1
    · simp only [advance, through, complete, last, if_true, DownloadPhase.through]
    · simp only [advance, through, complete, last, if_true, if_false, DownloadPhase.through]
  · simp only [advance, through, complete, if_false]

end Download

namespace Load

variable {π α : Type} [Peer π] {config : ClientConfig} {chunks : List Chunk}
  {terms : Impartial π config chunks} {origin : Disk} {places : List Location}
  {held : Holding} {task connection capacity : Nat} {turns : List Wire.Turn}
  {download : Download} {line? : Option Line}

/-! ### Connections -/

/-- A connection on which a question was asked. -/
def linkOver (connection : Nat) (line? : Option Line) : Option Link :=
  line?.map fun line => ⟨connection, line, false⟩

theorem does_connectStep (sound : origin.IsSound)
    (settled : IsSettled places origin config.socketPath) (remotePath : String) :
    Does terms origin places task
      (fun outcome left after => left = turns ∧
        match terms.welcome (origin.reachSocket config.socketPath) with
        | .error error => outcome = .error (.connect config.socketPath error) ∧
            after = { held with link := none }
        | .ok opening => terms.greeting = .ok opening ∧ ∃ connection,
            outcome = .ok ⟨config.socketPath, remotePath, connection⟩ ∧
            after = { held with link := some ⟨connection, .ofOpening opening, true⟩ })
      (Download.connectStep (π := π) config remotePath) turns held := by
  apply does_onConnection
  intro host onDisk onNetwork
  have reached := onDisk.shared.reachSocket sound settled
  unfold Session.connect
  cases connected : host.client.network.connect host.disk config.socketPath with
  | mk outcome network =>
    obtain ⟨aside, met⟩ := Network.connect_aside onNetwork.ready connected
    rw [reached] at met
    cases welcome : terms.welcome (origin.reachSocket config.socketPath) with
    | error error =>
      rw [welcome] at met
      cases met
      refine ⟨_, none, rfl, aside, .inl rfl, ?_, rfl, rfl, rfl⟩
      intro made impossible
      cases impossible
    | ok opening =>
      rw [welcome] at met
      obtain ⟨rfl, greeting, awaits, found⟩ := met
      refine ⟨_, some ⟨_, .ofOpening opening, true⟩, rfl, aside, .inl rfl, ?_, rfl, greeting, _,
        rfl, rfl⟩
      intro made same
      cases same
      exact ⟨rfl, found, fun _ => awaits⟩

theorem does_release (connection : Nat) (own : ∀ link, held.link = some link →
      link.connection = connection) (live : held.link.isSome) :
    Does terms origin places task
      (fun _ left after => left = turns ∧ after = { held with link := none })
      (onClient (π := π) fun client =>
        ((), { client with network := client.network.release connection })) turns held := by
  apply does_onConnection
  intro host _ onNetwork
  obtain ⟨link, there⟩ := Option.isSome_iff_exists.mp live
  refine ⟨connection, none, rfl, Network.release_aside connection onNetwork.ready,
    .inr ⟨link, there, own link there⟩, ?_, rfl, rfl⟩
  intro made impossible
  cases impossible

theorem does_ask {opening : Opening} (greeting : terms.greeting = .ok opening)
    (link : held.link = some ⟨connection, .ofOpening opening, true⟩) {chunk : Chunk}
    (listed : chunk ∈ chunks) (offset : Nat) (socket remotePath action : String) :
    let question := Download.question config chunk offset
    let said := (Line.ofOpening opening).say (terms.reply question) question.encode
    Does terms origin places task
      (fun outcome left after => left = turns ∧
        match said.1 with
        | .error error => outcome = .error (.transport action remotePath error) ∧
            after = { held with link := none }
        | .ok () => outcome = .ok () ∧
            after = { held with link := linkOver connection (some said.2) })
      (onNetwork (π := π)
        (Session.send ⟨socket, remotePath, connection⟩ question.encode action)) turns held := by
  intro question said
  apply does_onConnection
  intro host _ onNetwork
  have found := onNetwork.link _ link
  have awaits := onNetwork.fresh _ link rfl
  unfold Session.send
  dsimp only
  cases sent : host.client.network.send connection question.encode with
  | mk outcome network =>
    obtain ⟨aside, same, answered⟩ :=
      Network.send_aside onNetwork.ready greeting awaits found listed sent
    have outcome' : outcome = said.1 := same
    rw [← outcome']
    cases outcome with
    | error error =>
      refine ⟨connection, none, rfl, aside.trans (Network.release_aside connection aside.ready),
        .inr ⟨_, link, rfl⟩, ?_, rfl, rfl, rfl⟩
      intro made impossible
      cases impossible
    | ok nothing =>
      refine ⟨connection, linkOver connection (some said.2), rfl, aside, .inr ⟨_, link, rfl⟩, ?_,
        rfl, rfl, rfl⟩
      intro made same
      cases same
      refine ⟨rfl, answered, ?_⟩
      intro impossible
      cases impossible

theorem does_read {line : Line} (link : held.link = linkOver connection (some line))
    (socket remotePath : String) (limit : Nat) :
    let taken := Wire.readPatiently limit line.arrivals
    Does terms origin places task
      (fun outcome left after => left = turns ∧ outcome = taken.1 ∧
        after = { held with link := linkOver connection (some { line with arrivals := taken.2 }) })
      (onNetwork (π := π) (Session.read ⟨socket, remotePath, connection⟩ limit)) turns held := by
  intro taken
  apply does_onConnection
  intro host _ onNetwork
  have found := onNetwork.link _ link
  unfold Session.read
  dsimp only
  cases took : host.client.network.read connection limit with
  | mk outcome network =>
    obtain ⟨aside, same, rest⟩ := Network.read_aside onNetwork.ready found took
    refine ⟨connection, linkOver connection (some { line with arrivals := taken.2 }), rfl, aside,
      .inr ⟨_, link, rfl⟩, ?_, rfl, same, rfl⟩
    intro made there
    cases there
    refine ⟨rfl, rest, ?_⟩
    intro impossible
    cases impossible

/-! ### Downloads -/

/-- A download of some of the chunks, and the line that it streams from. -/
structure Stands (config : ClientConfig) (chunks : List Chunk) (download : Download)
    (line? : Option Line) : Prop where
  config : download.config = config
  listed : ∀ chunk ∈ download.chunks, chunk ∈ chunks
  attached : line?.isSome ↔ ∃ session, download.phase = .streaming session

/-- Whatever number a download's connection has, and whatever the others do, some of its steps come
to the same: an outcome, and the download over a connection from which the same will arrive. -/
def PullsTo (terms : Impartial π config chunks) (origin : Disk) (line? : Option Line)
    (steps : Nat → Steps (Host π) (α × Download)) (outcome : α) (next : Download)
    (left? : Option Line) : Prop :=
  ∀ {places : List Location} {task : Nat} {turns : List Wire.Turn} {held : Holding}
    {connection : Nat}, IsSettled places origin config.socketPath →
    held.link = linkOver connection line? →
    Does terms origin places task
      (fun answer left after => left = turns ∧ ∃ connection,
        answer = (outcome, next.through connection) ∧
        after = { held with link := linkOver connection left? })
      (steps connection) turns held

theorem Stands.unattached (stands : Stands config chunks download line?)
    (idle : ∀ session, download.phase ≠ .streaming session) : line? = none := by
  rw [← Option.not_isSome_iff_eq_none, stands.attached]
  rintro ⟨session, streaming⟩
  exact idle session streaming

theorem does_hangUpStep (stands : Stands config chunks download line?)
    (link : held.link = linkOver connection line?) :
    Does terms origin places task
      (fun _ left after => left = turns ∧ after = { held with link := none })
      ((download.through connection).hangUpStep (π := π)) turns held := by
  by_cases streams : ∃ session, download.phase = .streaming session
  · obtain ⟨line, rfl⟩ := Option.isSome_iff_exists.mp (stands.attached.mpr streams)
    obtain ⟨session, phase⟩ := streams
    have hangs : (download.through connection).hangUpStep (π := π) =
        onClient fun client =>
          ((), { client with network := client.network.release connection }) := by
      unfold Download.hangUpStep Download.hangUp
      simp only [Download.through, phase, DownloadPhase.through, Session.close]
    rw [hangs]
    apply does_release
    · intro other there
      rw [link] at there
      cases there
      rfl
    · rw [link]
      rfl
  · have idle : ∀ session, download.phase ≠ .streaming session :=
      fun session phase => streams ⟨session, phase⟩
    have nothing : held.link = none := by
      rw [link, stands.unattached idle]
      rfl
    have same : { held with link := none } = held := by
      rw [← nothing]
    rw [Download.through_of_idle idle, same]
    apply does_look
    intro host _ turns
    unfold Download.hangUp
    split
    · rename_i session phase
      exact absurd phase (idle session)
    · exact ⟨rfl, rfl, rfl, rfl⟩

theorem stands_advance (stands : Stands config chunks download line?)
    (streams : ∃ session, download.phase = .streaming session) (line : Line) (count : Nat) :
    Stands config chunks (download.advance count)
      (if (download.advance count).remaining = 0 then none else some line) := by
  obtain ⟨session, phase⟩ := streams
  by_cases complete : download.remaining - count = 0
  · by_cases last : download.chunks.length ≤ download.position + 1
    · simp only [Download.advance, complete, last, if_true]
      exact ⟨stands.config, stands.listed, by simp⟩
    · simp only [Download.advance, complete, last, if_true, if_false]
      exact ⟨stands.config, stands.listed, by simp⟩
  · simp only [Download.advance, complete, if_false]
    exact ⟨stands.config, stands.listed, fun _ => ⟨session, phase⟩, fun _ => rfl⟩

theorem readSteps_settled (terms : Impartial π config chunks) (origin : Disk) {session : Session}
    (capacity : Nat) (stands : Stands config chunks download line?)
    (streaming : download.phase = .streaming session) :
    ∃ outcome next left?, Stands config chunks next left? ∧
      PullsTo terms origin line?
        (fun connection => Download.readSteps { session with connection } capacity
          (download.through connection)) outcome next left? := by
  obtain ⟨line, rfl⟩ := Option.isSome_iff_exists.mp (stands.attached.mpr ⟨session, streaming⟩)
  have still (rest : Line) : Stands config chunks download (some rest) :=
    ⟨stands.config, stands.listed, fun _ => ⟨session, streaming⟩, fun _ => rfl⟩
  have taking (connection : Nat) :
      min capacity (download.through connection).remaining = min capacity download.remaining := rfl
  cases taken : Wire.readPatiently (min capacity download.remaining) line.arrivals with
  | mk outcome arrivals =>
    cases outcome with
    | error error =>
      refine ⟨.error (.transport "reading chunk" download.currentPath error), download,
        some { line with arrivals }, still _, ?_⟩
      intro places task turns held connection settled link
      unfold Download.readSteps
      apply (does_read link _ _ _).bind
      rintro outcome left after ⟨rfl, rfl, rfl⟩
      rw [taking, taken]
      exact does_done ⟨rfl, connection, rfl, rfl⟩
    | ok data =>
      cases data with
      | nil =>
        refine ⟨.error download.endedEarly, download, some { line with arrivals }, still _, ?_⟩
        intro places task turns held connection settled link
        unfold Download.readSteps
        apply (does_read link _ _ _).bind
        rintro outcome left after ⟨rfl, rfl, rfl⟩
        rw [taking, taken]
        exact does_done ⟨rfl, connection, rfl, rfl⟩
      | cons first rest =>
        refine ⟨.ok (.bytes (first :: rest)), download.advance (first :: rest).length, _,
          stands_advance stands ⟨session, streaming⟩ { line with arrivals } _, ?_⟩
        intro places task turns held connection settled link
        unfold Download.readSteps
        apply (does_read link _ _ _).bind
        rintro outcome left after ⟨rfl, rfl, rfl⟩
        rw [taking, taken]
        dsimp only
        rw [download.advance_through]
        by_cases complete : (download.advance (first :: rest).length).remaining = 0
        · have done : ((download.advance (first :: rest).length).through connection).remaining = 0 :=
            complete
          rw [if_pos done, if_pos complete]
          apply (does_hangUpStep (still _) rfl).bind
          rintro _ left after ⟨rfl, rfl⟩
          exact does_done ⟨rfl, connection, rfl, rfl⟩
        · have more : ¬((download.advance (first :: rest).length).through connection).remaining = 0 :=
            complete
          rw [if_neg more, if_neg complete]
          exact does_done ⟨rfl, connection, rfl, rfl⟩

theorem attemptSteps_of_streaming {session : Session} (capacity connection : Nat)
    (streaming : download.phase = .streaming session) :
    (download.through connection).attemptSteps (π := π) capacity =
      Download.readSteps { session with connection } capacity (download.through connection) := by
  unfold Download.attemptSteps
  simp only [Download.through, streaming, DownloadPhase.through]

theorem attemptSteps_of_idle (capacity : Nat)
    (idle : ∀ session, download.phase ≠ .streaming session) :
    download.attemptSteps (π := π) capacity =
      match download.chunks[download.position]? with
      | none => .done (.ok .endOfStream, { download with phase := .exhausted })
      | some chunk =>
        (Download.requestSteps download.config chunk download.offset).bind fun
          | .error error => .done (.error error, download.begin chunk)
          | .ok session =>
            Download.readSteps session capacity
              { download.begin chunk with phase := .streaming session } := by
  unfold Download.attemptSteps
  split
  · rename_i session phase
    exact absurd phase (idle session)
  · rfl

theorem stands_begin (stands : Stands config chunks download line?) (chunk : Chunk) :
    Stands config chunks (download.begin chunk) line? := by
  unfold Download.begin
  split
  · exact ⟨stands.config, stands.listed, stands.attached⟩
  · exact stands

/-- A chunk that is asked for comes over a new connection, or fails to, as ever. -/
theorem requestSteps_settled (terms : Impartial π config chunks) (sound : origin.IsSound)
    {chunk : Chunk} (listed : chunk ∈ chunks) (offset : Nat) :
    ∃ verdict : Except ClientError Line, ∀ {places : List Location} {task : Nat}
      {turns : List Wire.Turn} {held : Holding}, IsSettled places origin config.socketPath →
      Does terms origin places task
        (fun outcome left after => left = turns ∧
          match verdict with
          | .error error => outcome = .error error ∧ after = { held with link := none }
          | .ok line => ∃ connection,
              outcome = .ok ⟨config.socketPath, chunk.remotePath, connection⟩ ∧
              after = { held with link := linkOver connection (some line) })
        (Download.requestSteps config chunk offset) turns held := by
  unfold Download.requestSteps
  cases welcome : terms.welcome (origin.reachSocket config.socketPath) with
  | error error =>
    refine ⟨.error (.connect config.socketPath error), ?_⟩
    intro places task turns held settled
    apply (does_connectStep sound settled chunk.remotePath).bind
    rintro outcome left after ⟨rfl, met⟩
    rw [welcome] at met
    obtain ⟨rfl, rfl⟩ := met
    exact does_done ⟨rfl, rfl, rfl⟩
  | ok opening =>
    cases said : (Line.ofOpening opening).say
        (terms.reply (Download.question config chunk offset))
        (Download.question config chunk offset).encode with
    | mk outcome line =>
      refine ⟨match outcome with
        | .error error => .error (.transport "requesting chunk" chunk.remotePath error)
        | .ok () => .ok line, ?_⟩
      intro places task turns held settled
      apply (does_connectStep sound settled chunk.remotePath).bind
      rintro answer left after ⟨rfl, met⟩
      rw [welcome] at met
      obtain ⟨greeting, connection, rfl, rfl⟩ := met
      apply (does_ask greeting rfl listed offset _ _ _).bind
      rintro answer left after ⟨rfl, met⟩
      rw [said] at met
      cases outcome with
      | error error =>
        obtain ⟨rfl, rfl⟩ := met
        exact does_done ⟨rfl, rfl, rfl⟩
      | ok nothing =>
        obtain ⟨rfl, rfl⟩ := met
        exact does_done ⟨rfl, connection, rfl, rfl⟩

/-- An attempt hands out the same bytes, or fails in the same way. -/
theorem attemptSteps_settled (terms : Impartial π config chunks) (sound : origin.IsSound)
    (capacity : Nat) (stands : Stands config chunks download line?) :
    ∃ outcome next left?, Stands config chunks next left? ∧
      PullsTo terms origin line?
        (fun connection => (download.through connection).attemptSteps capacity) outcome next
        left? := by
  by_cases streams : ∃ session, download.phase = .streaming session
  · obtain ⟨session, phase⟩ := streams
    simp only [attemptSteps_of_streaming capacity _ phase]
    exact readSteps_settled terms origin capacity stands phase
  · have idle : ∀ session, download.phase ≠ .streaming session :=
      fun session phase => streams ⟨session, phase⟩
    cases stands.unattached idle
    simp only [Download.through_of_idle idle, attemptSteps_of_idle capacity idle]
    cases wanted : download.chunks[download.position]? with
    | none =>
      refine ⟨.ok .endOfStream, { download with phase := .exhausted }, none,
        ⟨stands.config, stands.listed, by simp⟩, ?_⟩
      intro places task turns held connection settled link
      refine does_done ⟨rfl, connection, rfl, ?_⟩
      rw [← link]
    | some chunk =>
      have listed := stands.listed chunk (List.mem_of_getElem? wanted)
      have begun := stands_begin stands chunk
      have resting : ∀ session, (download.begin chunk).phase ≠ .streaming session := by
        rw [(Download.begin_keeps chunk download).2.2.2.2.2]
        exact idle
      obtain ⟨verdict, asked⟩ := requestSteps_settled terms sound listed download.offset
      cases verdict with
      | error error =>
        refine ⟨.error error, download.begin chunk, none, begun, ?_⟩
        intro places task turns held connection settled link
        rw [stands.config]
        apply (asked settled).bind
        rintro outcome left after ⟨rfl, rfl, rfl⟩
        refine does_done ⟨rfl, connection, ?_, rfl⟩
        rw [Download.through_of_idle resting]
      | ok line =>
        let session : Session := ⟨config.socketPath, chunk.remotePath, 0⟩
        have streams : Stands config chunks
            { download.begin chunk with phase := .streaming session } (some line) :=
          ⟨begun.config, begun.listed, fun _ => ⟨session, rfl⟩, fun _ => rfl⟩
        obtain ⟨outcome, next, left?, stood, pulled⟩ :=
          readSteps_settled terms origin capacity streams rfl
        refine ⟨outcome, next, left?, stood, ?_⟩
        intro places task turns held connection settled link
        rw [stands.config]
        apply (asked settled).bind
        rintro outcome left after ⟨rfl, number, rfl, rfl⟩
        exact pulled settled rfl

/-! ### Failures -/

theorem stands_afterFailure (stands : Stands config chunks download line?) :
    Stands config chunks download.afterFailure none :=
  ⟨stands.config, stands.listed, by simp [Download.afterFailure]⟩

/-- A client's reports are nothing that a load counts on. -/
theorem does_reportStep (entry : LogEntry) : Does terms origin places task
    (fun _ left after => left = turns ∧ after = held)
    (Download.reportStep (π := π) entry) turns held := by
  apply does_look
  intro host _ _
  exact ⟨rfl, rfl, rfl, rfl⟩

theorem giveUpStep_settled (terms : Impartial π config chunks) (origin : Disk) (error : ClientError)
    (stands : Stands config chunks download none) :
    ∃ final : ClientError, ∃ next : Download, Stands config chunks next none ∧
      PullsTo terms origin none (fun _ => Download.giveUpStep error download)
        (Except.error final : Except ClientError Pulled) next none := by
  let final := if error.isRetryable then download.exhaustedRetries error.message else error
  refine ⟨final, { download with phase := .failed final.message },
    ⟨stands.config, stands.listed, by simp⟩, ?_⟩
  intro places task turns held connection settled link
  apply does_look
  intro host _ turns
  refine ⟨rfl, rfl, rfl, connection, rfl, ?_⟩
  rw [← link]

/-- After a failed attempt, and whatever follows then without the connection. -/
theorem afterFailure_settled {error : ClientError} {failed next : Download}
    {left? : Option Line} {outcome : Except ClientError Pulled}
    {onFailure : ClientError → Download → Steps (Host π) (Except ClientError Pulled × Download)}
    (stands : Stands config chunks failed line?)
    (onward : PullsTo terms origin none (fun _ => onFailure error failed.afterFailure) outcome next
      left?) :
    PullsTo terms origin line?
      (fun connection => Download.afterAttempt onFailure (.error error, failed.through connection))
      outcome next left? := by
  intro places task turns held connection settled link
  apply (does_hangUpStep stands link).bind
  rintro _ left after ⟨rfl, rfl⟩
  have resting : { held with link := none }.link = linkOver connection none := rfl
  exact onward settled resting

theorem PullsTo.bind {β : Type} {left? last? : Option Line}
    {steps : Nat → Steps (Host π) (α × Download)}
    {rest : α × Download → Steps (Host π) (β × Download)} {middle : α} {outcome : β}
    {between next : Download} (first : PullsTo terms origin line? steps middle between left?)
    (second : PullsTo terms origin left?
      (fun connection => rest (middle, between.through connection)) outcome next last?) :
    PullsTo terms origin line? (fun connection => (steps connection).bind rest) outcome next
      last? := by
  intro places task turns held connection settled link
  apply (first settled link).bind
  rintro answer left after ⟨rfl, number, rfl, rfl⟩
  have attached : { held with link := linkOver number left? }.link = linkOver number left? := rfl
  exact second settled attached

theorem patientSteps_settled (terms : Impartial π config chunks) (sound : origin.IsSound)
    (capacity patience : Nat) (stands : Stands config chunks download line?) :
    ∃ outcome next left?, Stands config chunks next left? ∧
      PullsTo terms origin line?
        (fun connection => (download.through connection).patientSteps capacity patience) outcome next
        left? := by
  induction patience generalizing download line? with
  | zero =>
    unfold Download.patientSteps
    obtain ⟨outcome, next, left?, stood, attempted⟩ :=
      attemptSteps_settled terms sound capacity stands
    cases outcome with
    | ok pulled =>
      refine ⟨.ok pulled, next, left?, stood, attempted.bind ?_⟩
      exact fun _ link => does_done ⟨rfl, _, rfl, by rw [← link]⟩
    | error error =>
      obtain ⟨final, last, ended, given⟩ :=
        giveUpStep_settled terms origin error (stands_afterFailure stood)
      exact ⟨.error final, last, none, ended, attempted.bind (afterFailure_settled stood given)⟩
  | succ patience ih =>
    unfold Download.patientSteps
    obtain ⟨outcome, next, left?, stood, attempted⟩ :=
      attemptSteps_settled terms sound capacity stands
    cases outcome with
    | ok pulled =>
      refine ⟨.ok pulled, next, left?, stood, attempted.bind ?_⟩
      exact fun _ link => does_done ⟨rfl, _, rfl, by rw [← link]⟩
    | error error =>
      cases retryable : error.isRetryable with
      | false =>
        obtain ⟨final, last, ended, given⟩ :=
          giveUpStep_settled terms origin error (stands_afterFailure stood)
        refine ⟨.error final, last, none, ended,
          attempted.bind (afterFailure_settled stood ?_)⟩
        rw [if_neg (by rw [retryable]; exact Bool.false_ne_true)]
        exact given
      | true =>
        obtain ⟨outcome, last, rest?, ended, onward⟩ := ih (stands_afterFailure stood)
        refine ⟨outcome, last, rest?, ended, attempted.bind (afterFailure_settled stood ?_)⟩
        rw [if_pos retryable]
        intro places task turns held connection settled link
        apply (does_reportStep _).bind
        rintro _ left after ⟨rfl, rfl⟩
        exact onward settled link

theorem pullSteps_through (download : Download) (connection capacity : Nat) :
    (download.through connection).pullSteps (π := π) capacity =
      match download.phase with
      | .failed account =>
        .done (.error (download.exhaustedRetries account), download.through connection)
      | .exhausted => .done (.ok .endOfStream, download.through connection)
      | _ =>
        if capacity = 0 then .done (.ok (.bytes []), download.through connection)
        else (download.through connection).patientSteps capacity download.patience := by
  obtain ⟨config, chunks, position, remaining, consumed, failures, phase, delivered⟩ := download
  cases phase with
  | _ => rfl

/-- A pull hands out the same bytes, or fails in the same way, whoever else is at work. -/
theorem pullSteps_settled (terms : Impartial π config chunks) (sound : origin.IsSound)
    (capacity : Nat) (stands : Stands config chunks download line?) :
    ∃ outcome next left?, Stands config chunks next left? ∧
      PullsTo terms origin line?
        (fun connection => (download.through connection).pullSteps capacity) outcome next left? := by
  have idly (outcome : Except ClientError Pulled) : PullsTo terms origin line?
      (fun connection => .done (outcome, download.through connection)) outcome download line? :=
    fun _ link => does_done ⟨rfl, _, rfl, by rw [← link]⟩
  simp only [pullSteps_through]
  split
  · exact ⟨_, download, line?, stands, idly _⟩
  · exact ⟨_, download, line?, stands, idly _⟩
  · split
    · exact ⟨_, download, line?, stands, idly _⟩
    · exact patientSteps_settled terms sound capacity download.patience stands

end Load

end SegmentOffload
