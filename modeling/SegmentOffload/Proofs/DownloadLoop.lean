import SegmentOffload.Proofs.Delivery

/-!
The loop behind a pull, attempt by attempt.

A pull attempts to get bytes until some arrive, until the download has ended, or until the failures
on the chunk at hand have reached the retry limit.  Nothing in that description bounds the number of
attempts: `Pulling` is the loop as it stands, and every pull is such a loop that comes to an end.
What each attempt preserves holds after all calls on a download.
-/

namespace SegmentOffload

namespace Download

variable {π : Type} [Peer π]

/-- The bytes of the chunk at the position that have been handed out. -/
def offset (download : Download) : Nat :=
  if download.remaining = 0 then 0 else download.consumed

/-! ### One attempt -/

/-- An attempt to get bytes, with everything as it stands before. -/
structure Trial (π : Type) where
  capacity : Nat
  disk : Disk
  reading : Reading π

/-- What one turn of the loop comes to. -/
inductive Turned (π : Type) where
  | again (reading : Reading π)
  | done (outcome : Except ClientError Pulled) (reading : Reading π)

def Turned.reading : Turned π → Reading π
  | again reading => reading
  | done _ reading => reading

namespace Trial

def position (trial : Trial π) : Nat := trial.reading.download.position

def result (trial : Trial π) : Attempt π :=
  trial.reading.download.attempt trial.capacity trial.disk trial.reading.client

def fails (trial : Trial π) : Bool :=
  match trial.result with
  | .failure _ _ _ => true
  | _ => false

/-- One turn of the loop.  A failure is forgiven as long as the failures on the chunk stay below the
limit. -/
def turn (trial : Trial π) : Turned π :=
  let handed := trial.reading.handed
  match trial.result with
  | .bytes data download client => .done (.ok (.bytes data)) ⟨download, client, handed ++ data⟩
  | .endOfStream download client => .done (.ok .endOfStream) ⟨download, client, handed⟩
  | .failure error failed client =>
    let download := failed.afterFailure
    let client := failed.hangUp client
    if error.isRetryable = true ∧ download.failures < download.config.retryLimit.toNat then
      .again ⟨download, client.report (download.retryEntry error), handed⟩
    else
      let final := download.giveUp error client
      .done (.error final.1) ⟨final.2.1, final.2.2, handed⟩

end Trial

/-! ### Pulls -/

/-- The loop behind a pull: its attempts, what it comes to, and how it leaves the download. -/
inductive Pulling (capacity : Nat) (disk : Disk) :
    Reading π → List (Trial π) → Except ClientError Pulled → Reading π → Prop
  | done {reading last : Reading π} {outcome : Except ClientError Pulled} :
    Trial.turn ⟨capacity, disk, reading⟩ = .done outcome last →
    Pulling capacity disk reading [⟨capacity, disk, reading⟩] outcome last
  | again {reading next last : Reading π} {trials : List (Trial π)}
    {outcome : Except ClientError Pulled} :
    Trial.turn ⟨capacity, disk, reading⟩ = .again next →
    Pulling capacity disk next trials outcome last →
    Pulling capacity disk reading (⟨capacity, disk, reading⟩ :: trials) outcome last

/-! ### What an attempt does to the download -/

/-- A download with the chunk of an attempt begun: it is read already, or it is begun anew. -/
inductive Begins (download : Download) : Download → Prop
  | streaming {session : Session} : download.phase = .streaming session → Begins download download
  | anew {chunk : Chunk} : (∀ session, download.phase ≠ .streaming session) →
    download.chunks[download.position]? = some chunk → Begins download (download.begin chunk)

variable {capacity : Nat} {disk : Disk} {download later : Download} {client after : Client π}

theorem begin_keeps (chunk : Chunk) (download : Download) :
    (download.begin chunk).config = download.config ∧
      (download.begin chunk).chunks = download.chunks ∧
      (download.begin chunk).position = download.position ∧
      (download.begin chunk).failures = download.failures ∧
      (download.begin chunk).delivered = download.delivered ∧
      (download.begin chunk).phase = download.phase := by
  unfold begin
  split
  · exact ⟨rfl, rfl, rfl, rfl, rfl, rfl⟩
  · exact ⟨rfl, rfl, rfl, rfl, rfl, rfl⟩

theorem consumed_begin (chunk : Chunk) (download : Download) :
    (download.begin chunk).consumed = download.offset := by
  unfold begin offset
  split
  · rfl
  · rfl

theorem request_isRetryable {config : ClientConfig} {chunk : Chunk} {start : Nat}
    {network left : Network π} {error : ClientError}
    (asked : request config chunk start disk network = (.error error, left)) :
    error.isRetryable = true := by
  unfold request Session.connect at asked
  cases connected : network.connect disk config.socketPath with
  | mk outcome middle =>
    rw [connected] at asked
    cases outcome with
    | error cause =>
      cases asked
      rfl
    | ok connection =>
      simp only [Session.send] at asked
      split at asked
      · rename_i sent
        cases asked
        split at sent
        · cases sent
        · cases sent
          rfl
      · cases asked

theorem readFrom_failure_cases {session : Session} {error : ClientError} {failed : Download}
    (read : readFrom session capacity download client = .failure error failed after) :
    failed = download ∧ error.isRetryable = true := by
  unfold readFrom at read
  split at read
  · cases read
    exact ⟨rfl, rfl⟩
  · cases read
    exact ⟨rfl, rfl⟩
  · cases read

theorem readFrom_bytes_cases {session : Session} {data : Bytes}
    (read : readFrom session capacity download client = .bytes data later after) :
    later = download.advance data.length ∧ data ≠ [] ∧ data.length ≤ capacity ∧
      data.length ≤ download.remaining := by
  unfold readFrom at read
  split at read
  · cases read
  · cases read
  · rename_i nonempty took
    cases read
    have limited := Network.read_length_le took
    exact ⟨rfl, nonempty, by omega, by omega⟩

theorem readFrom_ne_endOfStream {session : Session} :
    readFrom session capacity download client ≠ .endOfStream later after := by
  unfold readFrom
  split
  · intro impossible
    cases impossible
  · intro impossible
    cases impossible
  · intro impossible
    cases impossible

/-- A failed attempt has begun its chunk and nothing more, and it may be tried again. -/
theorem attempt_failure_cases {error : ClientError} {failed : Download}
    (attempted : download.attempt capacity disk client = .failure error failed after) :
    error.isRetryable = true ∧
      ∃ begun phase, Begins download begun ∧ failed = { begun with phase } := by
  unfold attempt at attempted
  split at attempted
  · rename_i session streaming
    obtain ⟨rfl, retryable⟩ := readFrom_failure_cases attempted
    exact ⟨retryable, _, _, .streaming streaming, rfl⟩
  · rename_i idle
    split at attempted
    · cases attempted
    · rename_i chunk found
      have anew : Begins download (download.begin chunk) := .anew idle found
      dsimp only at attempted
      split at attempted
      · rename_i asked
        cases attempted
        exact ⟨request_isRetryable asked, _, _, anew, rfl⟩
      · obtain ⟨rfl, retryable⟩ := readFrom_failure_cases attempted
        exact ⟨retryable, _, _, anew, rfl⟩

/-- An attempt that gives bytes has moved its chunk by them. -/
theorem attempt_bytes_cases {data : Bytes}
    (attempted : download.attempt capacity disk client = .bytes data later after) :
    data ≠ [] ∧ data.length ≤ capacity ∧
      ∃ begun session, Begins download begun ∧ data.length ≤ begun.remaining ∧
        later = advance { begun with phase := .streaming session } data.length := by
  unfold attempt at attempted
  split at attempted
  · rename_i session streaming
    rcases readFrom_bytes_cases attempted with ⟨rfl, nonempty, limited, within⟩
    refine ⟨nonempty, limited, download, session, .streaming streaming, within, ?_⟩
    rw [← streaming]
  · rename_i idle
    split at attempted
    · cases attempted
    · rename_i chunk found
      dsimp only at attempted
      split at attempted
      · cases attempted
      · rename_i session _ _
        rcases readFrom_bytes_cases attempted with ⟨rfl, nonempty, limited, within⟩
        exact ⟨nonempty, limited, _, session, .anew idle found, within, rfl⟩

/-- An attempt finds the end where no chunk is left. -/
theorem attempt_endOfStream_cases
    (attempted : download.attempt capacity disk client = .endOfStream later after) :
    (∀ session, download.phase ≠ .streaming session) ∧
      download.chunks[download.position]? = none ∧
      later = { download with phase := .exhausted } ∧ after = client := by
  unfold attempt at attempted
  split at attempted
  · exact absurd attempted readFrom_ne_endOfStream
  · rename_i idle
    split at attempted
    · rename_i none
      cases attempted
      exact ⟨idle, none, rfl, rfl⟩
    · dsimp only at attempted
      split at attempted
      · cases attempted
      · exact absurd attempted readFrom_ne_endOfStream

theorem Begins.keeps {begun : Download} (begins : Begins download begun) :
    begun.config = download.config ∧ begun.chunks = download.chunks ∧
      begun.position = download.position ∧ begun.failures = download.failures ∧
      begun.delivered = download.delivered := by
  cases begins with
  | streaming => exact ⟨rfl, rfl, rfl, rfl, rfl⟩
  | anew =>
    obtain ⟨config, chunks, position, failures, delivered, _⟩ := begin_keeps _ download
    exact ⟨config, chunks, position, failures, delivered⟩

/-! ### What an attempt meets -/

/-- The chunk that a new connection is needed for, when no connection is open. -/
def wanted? (download : Download) : Option Chunk :=
  match download.phase with
  | .streaming _ => none
  | _ => download.chunks[download.position]?

theorem wanted?_eq_some {chunk : Chunk} (wanted : download.wanted? = some chunk) :
    (∀ session, download.phase ≠ .streaming session) ∧
      download.chunks[download.position]? = some chunk := by
  unfold wanted? at wanted
  split at wanted
  · cases wanted
  · rename_i idle
    exact ⟨idle, wanted⟩

theorem wanted?_of_streaming {session : Session} (phase : download.phase = .streaming session) :
    download.wanted? = none := by
  simp only [wanted?, phase]

theorem wanted?_of_idle (idle : ∀ session, download.phase ≠ .streaming session) :
    download.wanted? = download.chunks[download.position]? := by
  unfold wanted?
  split
  · rename_i session streaming
    exact absurd streaming (idle session)
  · rfl

/-- What became of a new connection for an attempt. -/
inductive Contact where
  /-- None was tried: one is open, or no chunk is left. -/
  | untried
  | refused
  /-- The question could not be sent whole. -/
  | cutShort
  | made
deriving DecidableEq, Repr

namespace Trial

def contact (trial : Trial π) : Contact :=
  let download := trial.reading.download
  match download.wanted? with
  | none => .untried
  | some chunk =>
    match Session.connect trial.disk download.config.socketPath chunk.remotePath
        trial.reading.client.network with
    | (.error _, _) => .refused
    | (.ok session, network) =>
      let question := (question download.config chunk download.offset).encode
      match session.send question "requesting chunk" network with
      | (.error _, _) => .cutShort
      | (.ok (), _) => .made

/-- Whether a new connection is tried. -/
def connects (trial : Trial π) : Bool :=
  trial.reading.download.wanted?.isSome

/-- What the read of an attempt gives, if it comes to one. -/
def readout? (trial : Trial π) : Option (Except IoError Bytes) :=
  let download := trial.reading.download
  let network := trial.reading.client.network
  match download.wanted? with
  | some chunk =>
    match request download.config chunk download.offset trial.disk network with
    | (.error _, _) => none
    | (.ok session, network) =>
      some (session.read (min trial.capacity (download.begin chunk).remaining) network).1
  | none =>
    match download.phase with
    | .streaming session =>
      some (session.read (min trial.capacity download.remaining) network).1
    | _ => none

end Trial

theorem attempt_of_streaming {session : Session} (phase : download.phase = .streaming session) :
    download.attempt capacity disk client = readFrom session capacity download client := by
  simp only [attempt, phase]

theorem attempt_of_wanted {chunk : Chunk} (wanted : download.wanted? = some chunk) :
    download.attempt capacity disk client =
      match request download.config chunk download.offset disk client.network with
      | (.error error, network) => .failure error (download.begin chunk) { client with network }
      | (.ok session, network) =>
        readFrom session capacity { download.begin chunk with phase := .streaming session }
          { client with network } := by
  obtain ⟨idle, found⟩ := wanted?_eq_some wanted
  unfold attempt
  split
  · rename_i session streaming
    exact absurd streaming (idle session)
  · rw [found]
    dsimp only
    rewrite [(begin_keeps chunk download).1, consumed_begin]
    rfl

theorem attempt_of_unwanted (wanted : download.wanted? = none)
    (idle : ∀ session, download.phase ≠ .streaming session) :
    download.attempt capacity disk client =
      .endOfStream { download with phase := .exhausted } client := by
  rw [wanted?_of_idle idle] at wanted
  unfold attempt
  split
  · rename_i session streaming
    exact absurd streaming (idle session)
  · rw [wanted]

theorem readFrom_fails_iff {session : Session} :
    (∃ error failed after, readFrom session capacity download client =
        .failure error failed after) ↔
      (∃ error, (session.read (min capacity download.remaining) client.network).1 =
        .error error) ∨
      (session.read (min capacity download.remaining) client.network).1 = .ok [] := by
  unfold readFrom
  split
  · rename_i took
    rw [took]
    exact ⟨fun _ => .inl ⟨_, rfl⟩, fun _ => ⟨_, _, _, rfl⟩⟩
  · rename_i took
    rw [took]
    exact ⟨fun _ => .inr rfl, fun _ => ⟨_, _, _, rfl⟩⟩
  · rename_i nonempty took
    rw [took]
    constructor
    · rintro ⟨_, _, _, impossible⟩
      cases impossible
    · rintro (⟨_, impossible⟩ | nothing)
      · cases impossible
      · cases nothing
        exact absurd rfl nonempty

namespace Trial

theorem connects_iff (trial : Trial π) : trial.connects = true ↔ trial.contact ≠ .untried := by
  unfold connects contact
  dsimp only
  cases trial.reading.download.wanted? with
  | none => simp
  | some chunk =>
    simp only [Option.isSome_some, true_iff]
    split
    · exact Contact.noConfusion
    · split
      · exact Contact.noConfusion
      · exact Contact.noConfusion

theorem fails_eq_true_iff (trial : Trial π) :
    trial.fails = true ↔ ∃ error failed after, trial.result = .failure error failed after := by
  unfold fails
  split
  · rename_i result
    exact ⟨fun _ => ⟨_, _, _, result⟩, fun _ => rfl⟩
  · rename_i other
    constructor
    · intro impossible
      cases impossible
    · rintro ⟨error, failed, after, result⟩
      exact absurd result (other error failed after)

/-- An attempt fails when the connection is refused, the question is cut short, the read fails, or
the stream ends although bytes of the chunk are owed. -/
theorem fails_iff (trial : Trial π) :
    trial.fails = true ↔ trial.contact = .refused ∨ trial.contact = .cutShort ∨
      (∃ error, trial.readout? = some (.error error)) ∨ trial.readout? = some (.ok []) := by
  rw [fails_eq_true_iff, result]
  unfold contact readout?
  dsimp only
  cases wanted : trial.reading.download.wanted? with
  | none =>
    cases phase : trial.reading.download.phase with
    | streaming session =>
      simp only [attempt_of_streaming phase, readFrom_fails_iff, reduceCtorEq, false_or,
        Option.some.injEq]
    | _ =>
      rw [attempt_of_unwanted wanted (by rw [phase]; intro session impossible; cases impossible)]
      simp only [reduceCtorEq, exists_false, or_self]
  | some chunk =>
    simp only [attempt_of_wanted wanted, request]
    cases connected : Session.connect trial.disk trial.reading.download.config.socketPath
        chunk.remotePath trial.reading.client.network with
    | mk outcome middle =>
      cases outcome with
      | error error => simp
      | ok session =>
        cases sent : session.send (question trial.reading.download.config chunk
            trial.reading.download.offset).encode "requesting chunk" middle with
        | mk outcome left =>
          cases outcome with
          | error error => simp [sent]
          | ok _ => simp [sent, readFrom_fails_iff]

end Trial

/-! ### Every pull ends -/

/-- The patience of a download is what the limit leaves of it, so a pull is its loop. -/
theorem pulling_pullPatiently {patience : Nat} {outcome : Except ClientError Pulled}
    (patient : patience = download.patience)
    (pulled : pullPatiently capacity disk patience download client = (outcome, later, after))
    (handed : Bytes) :
    ∃ trials, Pulling capacity disk ⟨download, client, handed⟩ trials outcome
      ⟨later, after, handed ++ pulledBytes outcome⟩ := by
  fun_induction pullPatiently capacity disk patience download client with
  | case1 patience download client data next now attempted =>
    cases pulled
    refine ⟨_, .done ?_⟩
    simp only [Trial.turn, Trial.result, attempted, pulledBytes]
  | case2 patience download client next now attempted =>
    cases pulled
    refine ⟨_, .done ?_⟩
    simp only [Trial.turn, Trial.result, attempted, pulledBytes, List.append_nil]
  | case3 download client error failed now attempted left next patience retryable ih =>
    obtain ⟨_, begun, phase, begins, rfl⟩ := attempt_failure_cases attempted
    obtain ⟨sameConfig, _, _, sameFailures, _⟩ := begins.keeps
    have config : next.config = download.config := sameConfig
    have failures : next.failures = download.failures + 1 := congrArg (· + 1) sameFailures
    unfold Download.patience at patient ih
    rw [config, failures] at ih
    obtain ⟨trials, rest⟩ := ih (by omega) pulled
    refine ⟨_, .again ?_ rest⟩
    have below : next.failures < next.config.retryLimit.toNat := by
      rw [config, failures]
      omega
    simp only [Trial.turn, Trial.result, attempted]
    rw [if_pos ⟨retryable, below⟩]
  | case4 patience download client error failed now attempted left next final last gone givenUp
      exhausted =>
    obtain ⟨retryable, begun, phase, begins, rfl⟩ := attempt_failure_cases attempted
    obtain ⟨sameConfig, _, _, sameFailures, _⟩ := begins.keeps
    have config : next.config = download.config := sameConfig
    have failures : next.failures = download.failures + 1 := congrArg (· + 1) sameFailures
    have none : patience = 0 := by
      cases patience with
      | zero => rfl
      | succ patience => exact absurd retryable (exhausted patience rfl)
    cases pulled
    refine ⟨_, .done ?_⟩
    have spent : ¬(error.isRetryable = true ∧ next.failures < next.config.retryLimit.toNat) := by
      unfold Download.patience at patient
      rw [config, failures]
      omega
    simp only [Trial.turn, Trial.result, attempted]
    rw [if_neg spent]
    change next.giveUp error left = _ at givenUp
    rw [givenUp]
    simp only [pulledBytes, List.append_nil]

/-! ### Calls -/

/-- What one call makes of a reading.  A call without room for bytes attempts nothing, and neither
does a call on a download that has ended or was given up. -/
inductive Called : Reading π → Call → List (Trial π) → Reading π → Prop
  | resting {reading : Reading π} {call : Call} :
    call.capacity = 0 ∨ reading.download.phase.isFinal = true → Called reading call [] reading
  | pulling {reading last : Reading π} {call : Call} {trials : List (Trial π)}
    {outcome : Except ClientError Pulled} :
    0 < call.capacity → reading.download.phase.isFinal = false →
    Pulling call.capacity call.disk reading trials outcome last → Called reading call trials last

/-- What calls, one after the other, make of a reading, with the attempts of all of them. -/
inductive Calls : Reading π → List Call → List (Trial π) → Reading π → Prop
  | nil {reading : Reading π} : Calls reading [] [] reading
  | cons {reading next last : Reading π} {call : Call} {calls : List Call}
    {trials more : List (Trial π)} :
    Called reading call trials next → Calls next calls more last →
    Calls reading (call :: calls) (trials ++ more) last

/-- The reading after a pull, which is its loop unless there is nothing to attempt. -/
theorem called_pull {outcome : Except ClientError Pulled} (call : Call) (reading : Reading π)
    (pulled : reading.download.pull call.capacity call.disk reading.client =
      (outcome, later, after)) :
    ∃ trials, Called reading call trials
      ⟨later, after, reading.handed ++ pulledBytes outcome⟩ := by
  unfold pull at pulled
  split at pulled
  · rename_i account failed
    cases pulled
    refine ⟨[], ?_⟩
    change Called reading call [] ⟨_, _, reading.handed ++ []⟩
    rw [List.append_nil]
    exact .resting (.inr (by rw [failed]; rfl))
  · rename_i exhausted
    cases pulled
    refine ⟨[], ?_⟩
    change Called reading call [] ⟨_, _, reading.handed ++ []⟩
    rw [List.append_nil]
    exact .resting (.inr (by rw [exhausted]; rfl))
  · rename_i unfailed unfinished
    split at pulled
    · rename_i noRoom
      cases pulled
      refine ⟨[], ?_⟩
      change Called reading call [] ⟨_, _, reading.handed ++ []⟩
      rw [List.append_nil]
      exact .resting (.inl noRoom)
    · rename_i room
      obtain ⟨trials, loop⟩ := pulling_pullPatiently rfl pulled reading.handed
      refine ⟨trials, .pulling (Nat.pos_of_ne_zero room) ?_ loop⟩
      cases phase : reading.download.phase with
      | exhausted => exact absurd phase unfinished
      | failed account => exact absurd phase (unfailed account)
      | idle => rfl
      | awaiting => rfl
      | streaming session => rfl

theorem called_step (reading : Reading π) (call : Call) :
    ∃ trials, Called reading call trials (reading.step call) := by
  cases pulled : reading.download.pull call.capacity call.disk reading.client with
  | mk outcome rest =>
    rw [step_eq pulled]
    exact called_pull call reading pulled

theorem calls_run (reading : Reading π) (calls : List Call) :
    ∃ trials, Calls reading calls trials (reading.run calls) := by
  induction calls generalizing reading with
  | nil => exact ⟨[], .nil⟩
  | cons call rest ih =>
    obtain ⟨trials, called⟩ := called_step reading call
    obtain ⟨more, others⟩ := ih (reading.step call)
    exact ⟨trials ++ more, .cons called others⟩

/-! ### What every attempt preserves -/

/-- A fact about the attempts so far and the reading that they lead to, kept by every attempt. -/
def IsKept (fact : List (Trial π) → Reading π → Prop) : Prop :=
  ∀ trials trial, 0 < trial.capacity → trial.reading.download.phase.isFinal = false →
    fact trials trial.reading → fact (trials ++ [trial]) trial.turn.reading

section

variable {fact : List (Trial π) → Reading π → Prop} {earlier trials : List (Trial π)}
  {reading last : Reading π}

theorem phase_of_again {trial : Trial π} {next : Reading π} (turned : trial.turn = .again next) :
    next.download.phase = .awaiting := by
  unfold Trial.turn at turned
  split at turned
  · cases turned
  · cases turned
  · dsimp only at turned
    split at turned
    · cases turned
      rfl
    · cases turned

theorem Pulling.keeps {outcome : Except ClientError Pulled} (kept : IsKept fact)
    (pulling : Pulling capacity disk reading trials outcome last) (room : 0 < capacity)
    (unfinished : reading.download.phase.isFinal = false) (begun : fact earlier reading) :
    fact (earlier ++ trials) last := by
  induction pulling generalizing earlier with
  | done turned =>
    have next := kept earlier ⟨capacity, disk, _⟩ room unfinished begun
    rw [turned] at next
    exact next
  | again turned _ ih =>
    have next := kept earlier ⟨capacity, disk, _⟩ room unfinished begun
    rw [turned] at next
    rw [List.append_cons]
    refine ih ?_ next
    rw [phase_of_again turned]
    rfl

theorem Called.keeps {call : Call} (kept : IsKept fact)
    (called : Called reading call trials last) (begun : fact earlier reading) :
    fact (earlier ++ trials) last := by
  cases called with
  | resting =>
    rw [List.append_nil]
    exact begun
  | pulling room unfinished loop => exact loop.keeps kept room unfinished begun

/-- What every attempt preserves holds after all calls. -/
theorem Calls.keeps {calls : List Call} (kept : IsKept fact)
    (called : Calls reading calls trials last) (begun : fact earlier reading) :
    fact (earlier ++ trials) last := by
  induction called generalizing earlier with
  | nil =>
    rw [List.append_nil]
    exact begun
  | cons first _ ih =>
    rw [← List.append_assoc]
    exact ih (first.keeps kept begun)

/-- What every attempt preserves holds before each of them, and each has room for bytes. -/
theorem Calls.at_each {calls : List Call} (kept : IsKept fact)
    (called : Calls reading calls trials last) (begun : fact [] reading)
    {before after : List (Trial π)} {trial : Trial π} (split : trials = before ++ trial :: after) :
    0 < trial.capacity ∧ trial.reading.download.phase.isFinal = false ∧
      fact before trial.reading := by
  let known (trials : List (Trial π)) (reading : Reading π) : Prop :=
    fact trials reading ∧ ∀ before trial after, trials = before ++ trial :: after →
      0 < trial.capacity ∧ trial.reading.download.phase.isFinal = false ∧
        fact before trial.reading
  have grown : IsKept known := by
    intro trials trial room unfinished known
    refine ⟨kept trials trial room unfinished known.1, ?_⟩
    intro before other after split
    -- the last attempt is the new one, and the others are as they were
    rcases List.eq_nil_or_concat after with rfl | ⟨rest, final, rfl⟩
    · obtain ⟨rfl, same⟩ := List.append_inj' split rfl
      cases same
      exact ⟨room, unfinished, known.1⟩
    · rw [List.concat_eq_append, ← List.cons_append, ← List.append_assoc] at split
      obtain ⟨same, _⟩ := List.append_inj' split rfl
      exact known.2 before other rest same
  have first : known [] reading := by
    refine ⟨begun, ?_⟩
    intro before other after split
    cases before <;> cases split
  have all := called.keeps grown first
  rw [List.nil_append] at all
  exact all.2 before trial after split

end

end Download

end SegmentOffload
