import SegmentOffload.Proofs.DownloadFields
import SegmentOffload.Proofs.FinalPulls

/-!
Pulls, turn by turn.

A pull is turns on the fields of a download until one has an outcome.  Where the bytes of the chunks
can be counted, no turn comes to a mishap, and what the fields stand for after a pull is the download
after it: an attempt is one turn, or two when it needs a new connection.  So every state that calls
lead to agrees with the chunks, and with itself.
-/

namespace SegmentOffload

namespace Download

open Fields (Consistent Proceeds)

variable {π : Type} [Peer π]

/-- The states that turns lead to, whatever room each of them has and whatever it meets. -/
inductive Reachable (π : Type) [Peer π] (config : ClientConfig) (chunks : List Chunk) :
    Fields → Prop
  | start : Reachable π config chunks (.ofChunks config chunks)
  | turn {fields : Fields} {capacity : Nat} {disk : Disk} {client : Client π} {next : Next π} :
    Reachable π config chunks fields → fields.turn capacity disk client = .ok next →
    Reachable π config chunks next.fields

/-- A pull as the turns that it is made of. -/
inductive Pulls (capacity : Nat) (disk : Disk) : Fields → Client π → Except ClientError Pulled →
    Fields → Client π → Prop
  | done {fields later : Fields} {client after : Client π}
    {outcome : Except ClientError Pulled} :
    fields.turn capacity disk client = .ok (.done outcome later after) →
    Pulls capacity disk fields client outcome later after
  | again {fields next later : Fields} {client middle after : Client π}
    {outcome : Except ClientError Pulled} :
    fields.turn capacity disk client = .ok (.again next middle) →
    Pulls capacity disk next middle outcome later after →
    Pulls capacity disk fields client outcome later after

/-! ### One attempt -/

/-- What a turn has come to, told of what the fields stand for. -/
def Next.turned (handed : Bytes) : Next π → Turned π
  | again fields client => .again ⟨fields.view, client, handed⟩
  | done outcome fields client =>
    .done outcome ⟨fields.view, client, handed ++ pulledBytes outcome⟩

section

variable {config : ClientConfig} {chunks : List Chunk} {fields : Fields} {client : Client π}
  {capacity : Nat} {disk : Disk} {handed : Bytes}

theorem Trial.turn_congr {trial other : Trial π} (result : trial.result = other.result)
    (handed : trial.reading.handed = other.reading.handed) : trial.turn = other.turn := by
  rw [Trial.turn, Trial.turn, result, handed]

/-- A failure of an attempt is a failure of a turn. -/
theorem fail_agrees {trial : Trial π} {error : ClientError}
    (result : trial.result = .failure error fields.view client)
    (consistent : Consistent config chunks fields) (unfailed : fields.stage ≠ .failed)
    (retryable : error.isRetryable = true) :
    ∃ next, fields.fail error client = .ok next ∧
      next.turned trial.reading.handed = trial.turn := by
  have below := consistent.below unfailed
  have bound := budget_lt config
  have room : fields.failures.toNat + 1 < UInt32.size := by omega
  have counted := (Fields.countUp_eq room).2
  refine ⟨_, Fields.fail_eq consistent.connected room retryable client, ?_⟩
  simp only [Trial.turn, result, retryable, true_and]
  change _ = if fields.failures.toNat + 1 < fields.config.retryLimit.toNat then _ else _
  split
  · simp only [Next.turned, retryEntry, currentPath, Fields.view, Fields.blamed, Fields.phase,
      afterFailure, counted]
  · simp only [Next.turned, giveUp, retryable, if_true, exhaustedRetries, failureEntry, currentPath,
      Fields.view, Fields.blamed, Fields.phase, afterFailure, counted, Option.getD_some, pulledBytes,
      List.append_nil]

theorem view_completed (fields : Fields) :
    fields.completed.view =
      { fields.view with
        position := fields.position + 1
        failures := 0
        phase := if fields.chunks.length ≤ fields.position + 1 then .exhausted else .awaiting } := by
  by_cases last : fields.chunks.length ≤ fields.position + 1 <;>
    simp [Fields.view, Fields.completed, Fields.phase, last]

theorem view_passed {amount : Nat} (consistent : Consistent config chunks fields)
    (stage : fields.stage = .streaming) (within : amount ≤ fields.remaining.toNat)
    (fits : fields.delivered.toNat + amount < UInt64.size) :
    (fields.passed amount).view = fields.view.advance amount ∧
      ((fields.moved amount).remaining = 0 ↔ (fields.view.advance amount).remaining = 0) := by
  have short := (consistent.room (consistent.streaming stage).2 within).1
  obtain ⟨consumed, remaining, delivered⟩ := Fields.moved_numbers within short fits
  have moved : (fields.moved amount).view =
      { fields.view with
        consumed := fields.consumed.toNat + amount
        remaining := fields.remaining.toNat - amount
        delivered := fields.delivered.toNat + amount } := by
    rw [← consumed, ← remaining, ← delivered]
    rfl
  have complete : (fields.moved amount).remaining = 0 ↔ fields.remaining.toNat - amount = 0 := by
    rw [← remaining, ← UInt64.toNat_inj, UInt64.toNat_zero]
  rw [complete]
  by_cases last : fields.remaining.toNat - amount = 0
  · have advanced : fields.view.advance amount =
        { fields.view with
          consumed := fields.consumed.toNat + amount
          remaining := fields.remaining.toNat - amount
          delivered := fields.delivered.toNat + amount
          position := fields.position + 1
          failures := 0
          phase := if fields.chunks.length ≤ fields.position + 1 then .exhausted else .awaiting } :=
      if_pos last
    rw [advanced, Fields.passed, if_pos (complete.mpr last), view_completed, moved]
    exact ⟨rfl, Iff.rfl⟩
  · have advanced : fields.view.advance amount =
        { fields.view with
          consumed := fields.consumed.toNat + amount
          remaining := fields.remaining.toNat - amount
          delivered := fields.delivered.toNat + amount } :=
      if_neg last
    rw [advanced, Fields.passed, if_neg (complete.not.mpr last), moved]
    exact ⟨rfl, Iff.rfl⟩

/-- The turns that one attempt takes: the next one, or the one that connects and the one after. -/
inductive Attempts (capacity : Nat) (disk : Disk) (fields : Fields) (client : Client π) :
    Next π → Prop
  | once {next : Next π} : fields.turn capacity disk client = .ok next →
    Attempts capacity disk fields client next
  | connected {begun : Fields} {middle : Client π} {next : Next π} :
    fields.turn capacity disk client = .ok (.again begun middle) →
    begun.turn capacity disk middle = .ok next →
    Attempts capacity disk fields client next

/-- Reading from an open connection is one turn. -/
theorem stream_agrees (consistent : Consistent config chunks fields)
    (fits : chunkSize chunks < UInt64.size) (stage : fields.stage = .streaming) (capacity : Nat)
    (disk : Disk) (client : Client π) (handed : Bytes) :
    ∃ next, fields.stream capacity client = .ok next ∧
      next.turned handed = Trial.turn ⟨capacity, disk, fields.view, client, handed⟩ := by
  obtain ⟨session, held⟩ := consistent.held stage
  have owing := (consistent.streaming stage).2
  have unfailed : fields.stage ≠ .failed := by simp [stage]
  have result : Trial.result ⟨capacity, disk, fields.view, client, handed⟩ =
      readFrom session capacity fields.view client :=
    attempt_of_streaming (Fields.phase_of_streaming stage held)
  simp only [Fields.stream, held]
  cases took : session.read (min capacity fields.view.remaining) client.network with
  | mk outcome network =>
    have taken : session.read (min capacity fields.remaining.toNat) client.network =
      (outcome, network) := took
    rw [taken]
    simp only [readFrom, took] at result
    cases outcome with
    | error error => exact fail_agrees result consistent unfailed rfl
    | ok data =>
      cases data with
      | nil => exact fail_agrees result consistent unfailed rfl
      | cons byte rest =>
        have limited : (byte :: rest).length ≤ min capacity fields.remaining.toNat :=
          Network.read_length_le took
        have within : (byte :: rest).length ≤ fields.remaining.toNat := by omega
        obtain ⟨short, most⟩ := consistent.room owing within
        have counts : fields.delivered.toNat + (byte :: rest).length < UInt64.size := by omega
        obtain ⟨passed, complete⟩ := view_passed consistent stage within counts
        dsimp only
        rw [Fields.handOut_eq consistent.connected within short, if_pos counts]
        refine ⟨_, rfl, ?_⟩
        simp only [Trial.turn, result, Next.turned, passed, complete, pulledBytes]

theorem view_begin (chunk : Chunk) (fields : Fields) :
    (fields.begin chunk).view = fields.view.begin chunk := by
  have unbegun : fields.remaining = 0 ↔ fields.view.remaining = 0 := by
    rw [← UInt64.toNat_inj, UInt64.toNat_zero]
    rfl
  unfold Fields.begin Download.begin
  by_cases none : fields.remaining = 0
  · rw [if_pos none, if_pos (unbegun.mp none)]
    rfl
  · rw [if_neg none, if_neg (unbegun.not.mp none)]

theorem phase_eq_failed_iff (fields : Fields) {account : String} :
    fields.phase = .failed account ↔ fields.stage = .failed ∧ fields.account.getD "" = account := by
  unfold Fields.phase
  split <;> simp_all

theorem phase_eq_exhausted_iff (fields : Fields) :
    fields.phase = .exhausted ↔ fields.stage = .exhausted := by
  unfold Fields.phase
  split <;> simp_all

theorem isFinal_phase_iff (fields : Fields) :
    fields.phase.isFinal = false ↔ fields.stage ≠ .failed ∧ fields.stage ≠ .exhausted := by
  unfold Fields.phase
  split <;> simp_all [DownloadPhase.isFinal]

/-- Finding the end is one turn; a new connection is one, and with it comes either a failure or the
turn that reads from it. -/
theorem approach_agrees (filled : ∀ chunk ∈ chunks, chunk.byteLength.toNat ≠ 0)
    (consistent : Consistent config chunks fields) (idle : fields.stage ≠ .streaming)
    (unfailed : fields.stage ≠ .failed) (capacity : Nat) (disk : Disk) (client : Client π)
    (handed : Bytes) :
    ∃ next, fields.approach disk client = .ok next ∧
      (next.turned handed = Trial.turn ⟨capacity, disk, fields.view, client, handed⟩ ∨
        ∃ begun middle, next = .again begun middle ∧ begun.stage = .streaming ∧
          Trial.turn ⟨capacity, disk, begun.view, middle, handed⟩ =
            Trial.turn ⟨capacity, disk, fields.view, client, handed⟩) := by
  have quiet := Fields.phase_ne_streaming idle
  have wanted : fields.view.wanted? = fields.chunks[fields.position]? := wanted?_of_idle quiet
  cases found : fields.chunks[fields.position]? with
  | none =>
    obtain ⟨_, ended⟩ := Fields.approach_of_none consistent found idle disk client
    refine ⟨_, ended, .inl ?_⟩
    rw [found] at wanted
    have result : Trial.result ⟨capacity, disk, fields.view, client, handed⟩ =
        .endOfStream { fields.view with phase := .exhausted } client :=
      attempt_of_unwanted wanted quiet
    simp only [Trial.turn, result, Next.turned, pulledBytes, List.append_nil]
    rfl
  | some chunk =>
    rw [found] at wanted
    have there := found
    rw [consistent.sameChunks] at there
    obtain ⟨begun, owing⟩ := consistent.begin filled there
    have view := view_begin chunk fields
    have offset : (fields.begin chunk).consumed.toNat = fields.view.offset := by
      rw [← consumed_begin chunk, ← view]
      rfl
    have attempted : fields.view.attempt capacity disk client = _ := attempt_of_wanted wanted
    obtain ⟨config, chunks, position, stage⟩ := Fields.begin_keeps chunk fields
    have place : (fields.begin chunk).chunks[(fields.begin chunk).position]? = some chunk := by
      rw [chunks, position, found]
    rw [Fields.approach_of_found found]
    cases asked : request fields.view.config chunk fields.view.offset disk client.network with
    | mk outcome network =>
      have same : request (fields.begin chunk).config chunk (fields.begin chunk).consumed.toNat disk
          client.network = (outcome, network) := by
        rw [config, offset]
        exact asked
      rw [asked, ← view] at attempted
      simp only [Fields.openCurrent, place, same]
      cases outcome with
      | error error =>
        have result : Trial.result ⟨capacity, disk, fields.view, client, handed⟩ =
          .failure error (fields.begin chunk).view { client with network } := attempted
        obtain ⟨next, failed, agrees⟩ := fail_agrees result begun (by rwa [stage])
          (request_isRetryable asked)
        exact ⟨next, failed, .inl agrees⟩
      | ok session =>
        -- nothing is read in this turn: what it leaves is to be attempted as before
        refine ⟨_, rfl, .inr ⟨_, _, rfl, rfl, Trial.turn_congr (.trans ?_ attempted.symm) rfl⟩⟩
        rfl

/-- An attempt is a turn, or the turn that connects and the one after. -/
theorem attempt_agrees (filled : ∀ chunk ∈ chunks, chunk.byteLength.toNat ≠ 0)
    (fits : chunkSize chunks < UInt64.size) (consistent : Consistent config chunks fields)
    (room : 0 < capacity) (unended : fields.view.phase.isFinal = false) (disk : Disk)
    (client : Client π) (handed : Bytes) :
    ∃ next, Attempts capacity disk fields client next ∧
      next.turned handed = Trial.turn ⟨capacity, disk, fields.view, client, handed⟩ := by
  obtain ⟨unfailed, unexhausted⟩ := (isFinal_phase_iff fields).mp unended
  have reads {begun : Fields} (stage : begun.stage = .streaming) (middle : Client π) :
      begun.turn capacity disk middle = begun.stream capacity middle := by
    simp [Fields.turn, stage, Nat.ne_of_gt room]
  by_cases stage : fields.stage = .streaming
  · obtain ⟨next, read, agrees⟩ :=
      stream_agrees consistent fits stage capacity disk client handed
    exact ⟨next, .once ((reads stage client).trans read), agrees⟩
  · have turned : fields.turn capacity disk client = fields.approach disk client := by
      cases other : fields.stage <;> simp_all [Fields.turn, Nat.ne_of_gt room]
    obtain ⟨next, went, agrees | ⟨begun, middle, rfl, streams, same⟩⟩ :=
      approach_agrees filled consistent stage unfailed capacity disk client handed
    · exact ⟨next, .once (turned.trans went), agrees⟩
    · have begins := consistent.turn filled (turned.trans went)
      obtain ⟨next, read, agrees⟩ :=
        stream_agrees begins fits streams capacity disk middle handed
      exact ⟨next, .connected (turned.trans went) ((reads streams middle).trans read),
        agrees.trans same⟩

/-! ### Pulls -/

theorem Attempts.pulls_done {later : Fields} {after : Client π}
    {outcome : Except ClientError Pulled}
    (attempts : Attempts capacity disk fields client (.done outcome later after)) :
    Pulls capacity disk fields client outcome later after := by
  cases attempts with
  | once turned => exact .done turned
  | connected turned next => exact .again turned (.done next)

theorem Attempts.pulls_again {next later : Fields} {middle after : Client π}
    {outcome : Except ClientError Pulled}
    (attempts : Attempts capacity disk fields client (.again next middle))
    (rest : Pulls capacity disk next middle outcome later after) :
    Pulls capacity disk fields client outcome later after := by
  cases attempts with
  | once turned => exact .again turned rest
  | connected turned further => exact .again turned (.again further rest)

theorem Attempts.consistent (filled : ∀ chunk ∈ chunks, chunk.byteLength.toNat ≠ 0)
    (consistent : Consistent config chunks fields) {next : Next π}
    (attempts : Attempts capacity disk fields client next) :
    Consistent config chunks next.fields := by
  cases attempts with
  | once turned => exact consistent.turn filled turned
  | connected turned further => exact (consistent.turn filled turned).turn filled further

/-- The loop behind a pull is turns. -/
theorem pulls_of_pulling (filled : ∀ chunk ∈ chunks, chunk.byteLength.toNat ≠ 0)
    (fits : chunkSize chunks < UInt64.size) (consistent : Consistent config chunks fields)
    (room : 0 < capacity) (unended : fields.view.phase.isFinal = false)
    {trials : List (Trial π)} {outcome : Except ClientError Pulled} {last : Reading π}
    (pulling : Pulling capacity disk ⟨fields.view, client, handed⟩ trials outcome last) :
    ∃ later, Pulls capacity disk fields client outcome later last.client ∧
      later.view = last.download := by
  generalize begin : (⟨fields.view, client, handed⟩ : Reading π) = reading at pulling
  induction pulling generalizing fields client handed with
  | done turned =>
    subst begin
    obtain ⟨next, attempts, agrees⟩ :=
      attempt_agrees filled fits consistent room unended disk client handed
    rw [turned] at agrees
    cases next with
    | again => cases agrees
    | done outcome later after =>
      cases agrees
      exact ⟨later, attempts.pulls_done, rfl⟩
  | again turned _ ih =>
    subst begin
    obtain ⟨next, attempts, agrees⟩ :=
      attempt_agrees filled fits consistent room unended disk client handed
    have awaiting := phase_of_again turned
    rw [turned] at agrees
    cases next with
    | done => cases agrees
    | again further middle =>
      cases agrees
      obtain ⟨later, rest, view⟩ := ih (attempts.consistent filled consistent)
        (congrArg DownloadPhase.isFinal awaiting) rfl
      exact ⟨later, attempts.pulls_again rest, view⟩

/-- A pull is turns with the same outcome, and they leave the client and the download as it does. -/
theorem pulls_of_pull (filled : ∀ chunk ∈ chunks, chunk.byteLength.toNat ≠ 0)
    (fits : chunkSize chunks < UInt64.size) (consistent : Consistent config chunks fields)
    {outcome : Except ClientError Pulled} {last : Download} {after : Client π}
    (pulled : fields.view.pull capacity disk client = (outcome, last, after)) :
    ∃ later, Pulls capacity disk fields client outcome later after ∧ later.view = last := by
  unfold Download.pull at pulled
  split at pulled
  · rename_i account failed
    obtain ⟨stage, rfl⟩ := (phase_eq_failed_iff fields).mp failed
    cases pulled
    exact ⟨fields, .done (by rw [Fields.turn, stage]), rfl⟩
  · rename_i exhausted
    have stage := (phase_eq_exhausted_iff fields).mp exhausted
    cases pulled
    exact ⟨fields, .done (by rw [Fields.turn, stage]), rfl⟩
  · rename_i unfailed unexhausted
    have unended : fields.view.phase.isFinal = false := by
      cases phase : fields.view.phase with
      | exhausted => exact absurd phase unexhausted
      | failed account => exact absurd phase (unfailed account)
      | _ => rfl
    split at pulled
    · rename_i none
      cases pulled
      obtain ⟨working, unfinished⟩ := (isFinal_phase_iff fields).mp unended
      refine ⟨fields, .done ?_, rfl⟩
      cases stage : fields.stage <;> simp_all [Fields.turn]
    · rename_i room
      obtain ⟨trials, loop⟩ := pulling_pullPatiently rfl pulled []
      exact pulls_of_pulling filled fits consistent (Nat.pos_of_ne_zero room) unended loop

theorem Reachable.pulls {outcome : Except ClientError Pulled} {later : Fields} {after : Client π}
    (pulls : Pulls capacity disk fields client outcome later after)
    (reachable : Reachable π config chunks fields) : Reachable π config chunks later := by
  induction pulls with
  | done turned => exact reachable.turn turned
  | again turned _ ih => exact ih (reachable.turn turned)

end

/-! ### Every state -/

section

variable {config : ClientConfig} {chunks : List Chunk} {fields : Fields}

theorem filled_filter (chunks : List Chunk) :
    ∀ chunk ∈ chunks.filter fun chunk => !chunk.isEmpty, chunk.byteLength.toNat ≠ 0 :=
  (standing_ofChunks .default chunks).filled

theorem Reachable.consistent (reachable : Reachable π config chunks fields) :
    Consistent config (chunks.filter fun chunk => !chunk.isEmpty) fields := by
  induction reachable with
  | start => exact Fields.consistent_ofChunks config chunks
  | turn _ turned ih => exact ih.turn (filled_filter chunks) turned

/-- Calls lead to what some reachable fields stand for. -/
theorem Reachable.run (fits : chunkSize (chunks.filter fun chunk => !chunk.isEmpty) < UInt64.size)
    (client : Client π) (calls : List Call) :
    ∃ fields, Reachable π config chunks fields ∧
      fields.view = ((Reading.ofChunks config chunks client).run calls).download := by
  induction calls using List.reverseRecOn with
  | nil => exact ⟨_, .start, rfl⟩
  | append_singleton calls call ih =>
    obtain ⟨fields, reachable, view⟩ := ih
    obtain ⟨outcome, after, pulled⟩ :=
      download_step ((Reading.ofChunks config chunks client).run calls) call
    rw [← view] at pulled
    obtain ⟨later, pulls, same⟩ :=
      pulls_of_pull (filled_filter chunks) fits reachable.consistent pulled
    refine ⟨later, reachable.pulls pulls, ?_⟩
    rw [same, run_concat]

end

/-- In every state that pulls can lead to, whatever is behind them, the fields agree with the chunks
and with each other, streaming goes with a connection, and a turn comes to no mishap but a sum of
bytes that no word can hold.  Where the bytes of all chunks are such a word, pulls are made of turns,
and calls lead to these states. -/
theorem fields_agree_with_chunks (π : Type) [Peer π] (config : ClientConfig)
    (chunks : List Chunk) :
    let filled := chunks.filter fun chunk => !chunk.isEmpty
    (∀ fields, Reachable π config chunks fields →
      Consistent config filled fields ∧
      (fields.stage = .streaming → ∃ session, fields.session = some session) ∧
      ∀ capacity disk (client : Client π) mishap,
        fields.turn capacity disk client = .error mishap →
          mishap = .overflow .addition ∧ UInt64.size ≤ chunkSize filled) ∧
    (chunkSize filled < UInt64.size →
      (∀ fields, Reachable π config chunks fields →
        ∀ capacity disk (client : Client π) outcome last after,
          fields.view.pull capacity disk client = (outcome, last, after) →
          ∃ later, Pulls capacity disk fields client outcome later after ∧ later.view = last ∧
            Reachable π config chunks later) ∧
      ∀ (client : Client π) calls, ∃ fields, Reachable π config chunks fields ∧
        fields.view = ((Reading.ofChunks config chunks client).run calls).download) := by
  intro filled
  constructor
  · intro fields reachable
    have consistent : Consistent config filled fields := reachable.consistent
    refine ⟨consistent, consistent.held, ?_⟩
    intro capacity disk client mishap stopped
    have proceeds := Fields.turn_proceeds (filled_filter chunks) consistent capacity disk client
    rwa [stopped] at proceeds
  · intro fits
    constructor
    · intro fields reachable capacity disk client outcome last after pulled
      obtain ⟨later, pulls, view⟩ :=
        pulls_of_pull (filled_filter chunks) fits reachable.consistent pulled
      exact ⟨later, pulls, view, reachable.pulls pulls⟩
    · intro client calls
      exact Reachable.run fits client calls

end Download

end SegmentOffload
