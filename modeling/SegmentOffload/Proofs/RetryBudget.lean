import SegmentOffload.Proofs.DownloadCursor

/-!
The failures that a download forgives, and the connections that it tries.

All failures on a chunk are counted together, bytes that come in between do not make up for them,
and only the completion of the chunk starts the count again.  So a chunk takes as many connections
as the budget allows failures at most, and a download ends: it has handed out everything, or it was
given up over the chunk whose failures used up the budget.
-/

namespace SegmentOffload

namespace Download

variable {π : Type} [Peer π]

/-! ### Counting -/

/-- The number of failures on one chunk at which a download is given up. -/
def budget (config : ClientConfig) : Nat :=
  max 1 config.retryLimit.toNat

theorem budget_lt (config : ClientConfig) : budget config < UInt32.size := by
  have bound := config.retryLimit.toNat_lt
  simp only [budget, UInt32.size]
  omega

def failuresOn (position : Nat) (trials : List (Trial π)) : Nat :=
  trials.countP fun trial => trial.fails && trial.position == position

def connectionsFor (position : Nat) (trials : List (Trial π)) : Nat :=
  trials.countP fun trial => trial.connects && trial.position == position

section

variable {trials : List (Trial π)} {trial : Trial π} {position : Nat}

theorem failuresOn_concat :
    failuresOn position (trials ++ [trial]) = failuresOn position trials +
      if trial.position = position then trial.fails.toNat else 0 := by
  rw [failuresOn, failuresOn, List.countP_append, List.countP_singleton]
  cases trial.fails <;> simp

omit [Peer π] in
theorem connectionsFor_concat :
    connectionsFor position (trials ++ [trial]) = connectionsFor position trials +
      if trial.position = position then trial.connects.toNat else 0 := by
  rw [connectionsFor, connectionsFor, List.countP_append, List.countP_singleton]
  cases trial.connects <;> simp

theorem failuresOn_of_lt (below : ∀ trial ∈ trials, trial.position < position) :
    failuresOn position trials = 0 := by
  rw [failuresOn, List.countP_eq_zero]
  intro trial listed counted
  rw [Bool.and_eq_true, beq_iff_eq] at counted
  have before := below trial listed
  omega

omit [Peer π] in
theorem connectionsFor_of_lt (below : ∀ trial ∈ trials, trial.position < position) :
    connectionsFor position trials = 0 := by
  rw [connectionsFor, List.countP_eq_zero]
  intro trial listed counted
  rw [Bool.and_eq_true, beq_iff_eq] at counted
  have before := below trial listed
  omega

omit [Peer π] in
/-- Where each of the first chunks takes so many connections at most, so do all of them together. -/
theorem countP_connects_le {limit chunks : Nat}
    (inside : ∀ trial ∈ trials, trial.connects = true → trial.position < chunks)
    (each : ∀ position, connectionsFor position trials ≤ limit) :
    trials.countP Trial.connects ≤ limit * chunks := by
  induction chunks generalizing trials with
  | zero =>
    rw [Nat.mul_zero, Nat.le_zero, List.countP_eq_zero]
    intro trial listed connects
    exact absurd (inside trial listed connects) (Nat.not_lt_zero _)
  | succ chunks ih =>
    let others := trials.filter fun trial => trial.position != chunks
    have here : trials.countP Trial.connects =
        others.countP Trial.connects + connectionsFor chunks trials := by
      rw [List.countP_eq_countP_filter_add trials Trial.connects
        (fun trial => trial.position != chunks), connectionsFor]
      congr 1
      rw [List.countP_filter]
      congr 1
      funext trial
      simp only [bne, Bool.not_not]
    have fewer : ∀ position, connectionsFor position others ≤ limit := by
      intro position
      refine Nat.le_trans ?_ (each position)
      exact List.Sublist.countP_le List.filter_sublist
    have below : ∀ trial ∈ others, trial.connects = true → trial.position < chunks := by
      intro trial listed connects
      obtain ⟨there, apart⟩ := List.mem_filter.mp listed
      rw [bne_iff_ne] at apart
      have most := inside trial there connects
      omega
    have rest := ih below fewer
    have last := each chunks
    rw [here, Nat.mul_succ]
    omega

end

/-! ### One attempt -/

def openConnections : DownloadPhase → Nat
  | .streaming _ => 1
  | _ => 0

/-- The count of a download is that of the failures on its chunk, below the budget until it is given
up; and the connections for the chunk were lost by these failures, but for the one that is open. -/
structure Budgeted (config : ClientConfig) (chunks : List Chunk) (trials : List (Trial π))
    (download : Download) : Prop where
  counted : download.failures = failuresOn download.position trials
  below : (∀ account, download.phase ≠ .failed account) → download.failures < budget config
  spent : ∀ account, download.phase = .failed account → download.failures = budget config
  before : ∀ trial ∈ trials, trial.reading.download.failures < budget config
  reached : ∀ trial ∈ trials, trial.position ≤ download.position
  inside : ∀ trial ∈ trials, trial.connects = true → trial.position < chunks.length
  current : connectionsFor download.position trials =
    download.failures + openConnections download.phase
  each : ∀ position, connectionsFor position trials ≤ budget config

theorem budgeted_ofChunks (config : ClientConfig) (chunks : List Chunk) :
    Budgeted config (chunks.filter fun chunk => !chunk.isEmpty) ([] : List (Trial π))
      (ofChunks config chunks) where
  counted := rfl
  below := by
    intro _
    exact Nat.le_max_left 1 _
  spent := by
    intro account impossible
    cases impossible
  before := by
    intro trial impossible
    cases impossible
  reached := by
    intro trial impossible
    cases impossible
  inside := by
    intro trial impossible
    cases impossible
  current := rfl
  each := by
    intro position
    exact Nat.zero_le _

omit [Peer π] in
/-- An attempt on a chunk reads from the connection that is open, or tries one. -/
theorem connects_add_open {trial : Trial π} {begun : Download}
    (begins : Begins trial.reading.download begun) :
    trial.connects.toNat + openConnections trial.reading.download.phase = 1 := by
  cases begins with
  | streaming phase =>
    rw [Trial.connects, wanted?_of_streaming phase, phase]
    rfl
  | anew idle found =>
    rw [Trial.connects, wanted?_of_idle idle, found]
    cases phase : trial.reading.download.phase with
    | streaming session => exact absurd phase (idle session)
    | _ => rfl

theorem advance_counts (count : Nat) (download : Download) :
    ((download.advance count).position = download.position + 1 ∧
        (download.advance count).failures = 0 ∧
        ((download.advance count).phase = .exhausted ∨
          (download.advance count).phase = .awaiting)) ∨
      ((download.advance count).position = download.position ∧
        (download.advance count).failures = download.failures ∧
        (download.advance count).phase = download.phase) := by
  unfold advance
  dsimp only
  split
  · refine .inl ⟨rfl, rfl, ?_⟩
    dsimp only
    split
    · exact .inl rfl
    · exact .inr rfl
  · exact .inr ⟨rfl, rfl, rfl⟩

section

variable {config : ClientConfig} {chunks : List Chunk} {trials : List (Trial π)}
  {trial : Trial π} {download next : Download}

/-- An attempt on the chunk at the position: what it lost of connections it counts as failures. -/
theorem Budgeted.concat (budgeted : Budgeted config chunks trials trial.reading.download)
    (position : next.position = trial.position)
    (failures : next.failures = trial.reading.download.failures + trial.fails.toNat)
    (balance : trial.connects.toNat + openConnections trial.reading.download.phase =
      trial.fails.toNat + openConnections next.phase)
    (inside : trial.connects = true → trial.position < chunks.length)
    (started : trial.reading.download.failures < budget config)
    (limited : next.failures + openConnections next.phase ≤ budget config)
    (below : (∀ account, next.phase ≠ .failed account) → next.failures < budget config)
    (spent : ∀ account, next.phase = .failed account → next.failures = budget config) :
    Budgeted config chunks (trials ++ [trial]) next := by
  have counted := budgeted.counted
  have current := budgeted.current
  have here : connectionsFor next.position (trials ++ [trial]) =
      next.failures + openConnections next.phase := by
    rw [connectionsFor_concat, position, if_pos rfl]
    change connectionsFor trial.position trials = _ at current
    omega
  exact {
    counted := by
      rw [failuresOn_concat, position, if_pos rfl, failures, counted]
      rfl
    below := below
    spent := spent
    before := by
      intro other listed
      rcases List.mem_append.mp listed with earlier | last
      · exact budgeted.before other earlier
      · rw [List.mem_singleton.mp last]
        exact started
    reached := by
      intro other listed
      rw [position]
      rcases List.mem_append.mp listed with earlier | last
      · exact budgeted.reached other earlier
      · rw [List.mem_singleton.mp last]
    inside := by
      intro other listed
      rcases List.mem_append.mp listed with earlier | last
      · exact budgeted.inside other earlier
      · rw [List.mem_singleton.mp last]
        exact inside
    current := here
    each := by
      intro place
      by_cases same : trial.position = place
      · rw [← same, ← position, here]
        exact limited
      · rw [connectionsFor_concat, if_neg same]
        exact budgeted.each place }

/-- A complete chunk is left behind with its failures. -/
theorem Budgeted.complete (budgeted : Budgeted config chunks trials download)
    (position : next.position = download.position + 1) (failures : next.failures = 0)
    (phase : next.phase = .exhausted ∨ next.phase = .awaiting) :
    Budgeted config chunks trials next := by
  have passed : ∀ trial ∈ trials, trial.position < next.position := by
    intro trial listed
    have reached := budgeted.reached trial listed
    omega
  exact {
    counted := by
      rw [failures, failuresOn_of_lt passed]
    below := by
      intro _
      rw [failures]
      exact Nat.le_max_left 1 _
    spent := by
      intro account failed
      rcases phase with ended | waits
      · rw [ended] at failed
        cases failed
      · rw [waits] at failed
        cases failed
    before := budgeted.before
    reached := by
      intro trial listed
      exact Nat.le_of_lt (passed trial listed)
    inside := budgeted.inside
    current := by
      rw [connectionsFor_of_lt passed, failures]
      rcases phase with ended | waits
      · rw [ended]
        rfl
      · rw [waits]
        rfl
    each := budgeted.each }

theorem Budgeted.ofSame (budgeted : Budgeted config chunks trials download)
    (position : next.position = download.position) (failures : next.failures = download.failures)
    (phase : next.phase = download.phase) : Budgeted config chunks trials next where
  counted := by
    rw [position, failures]
    exact budgeted.counted
  below := by
    rw [phase, failures]
    exact budgeted.below
  spent := by
    rw [phase, failures]
    exact budgeted.spent
  before := budgeted.before
  reached := by
    rw [position]
    exact budgeted.reached
  inside := budgeted.inside
  current := by
    rw [position, failures, phase]
    exact budgeted.current
  each := budgeted.each

section

variable {begun : Download}
  (budgeted : Budgeted config chunks trials trial.reading.download)
  (started : trial.reading.download.failures < budget config)
  (inside : trial.connects = true → trial.position < chunks.length)

include budgeted started inside

/-- Finding the end costs nothing. -/
theorem Budgeted.ended (sound : trial.fails = false)
    (idle : ∀ session, trial.reading.download.phase ≠ .streaming session)
    (none : trial.reading.download.chunks[trial.position]? = none) :
    Budgeted config chunks (trials ++ [trial])
      { trial.reading.download with phase := .exhausted } := by
  have unconnected : trial.connects = false := by
    change trial.reading.download.chunks[trial.reading.download.position]? = _ at none
    rw [Trial.connects, wanted?_of_idle idle, none]
    rfl
  have closed : openConnections trial.reading.download.phase = 0 := by
    cases phase : trial.reading.download.phase with
    | streaming session => exact absurd phase (idle session)
    | _ => rfl
  refine budgeted.concat rfl ?_ ?_ inside started ?_ (fun _ => started) ?_
  · rw [sound]
    rfl
  · rw [unconnected, sound, closed]
    rfl
  · exact Nat.le_of_lt started
  · intro account impossible
    cases impossible

/-- A failure costs one unit, and the last of them the download. -/
theorem Budgeted.fails {phase : DownloadPhase} (fails : trial.fails = true)
    (begins : Begins trial.reading.download begun) (limit : begun.config = config)
    (way : phase = .awaiting ∧ begun.failures + 1 < begun.config.retryLimit.toNat ∨
      (∃ account, phase = .failed account) ∧
        begun.config.retryLimit.toNat ≤ begun.failures + 1) :
    Budgeted config chunks (trials ++ [trial])
      { begun with phase, failures := begun.failures + 1 } := by
  obtain ⟨_, _, position, failures, _⟩ := begins.keeps
  have balance := connects_add_open begins
  have most : begun.failures + 1 ≤ budget config := by omega
  have closed : openConnections phase = 0 := by
    rcases way with ⟨rfl, _⟩ | ⟨⟨account, rfl⟩, _⟩
    · rfl
    · rfl
  rw [limit] at way
  refine budgeted.concat position ?_ ?_ inside started ?_ ?_ ?_
  · change begun.failures + 1 = _
    rw [fails, failures]
    rfl
  · change _ = _ + openConnections phase
    rw [fails, closed]
    exact balance
  · change begun.failures + 1 + openConnections phase ≤ _
    omega
  · intro unfailed
    rcases way with ⟨_, forgiven⟩ | ⟨⟨account, same⟩, _⟩
    · exact Nat.lt_of_lt_of_le forgiven (Nat.le_max_right _ _)
    · exact absurd same (unfailed account)
  · intro account failed
    rcases way with ⟨same, _⟩ | ⟨_, exceeded⟩
    · dsimp only at failed
      rw [same] at failed
      cases failed
    · apply Nat.le_antisymm most
      exact Nat.max_le.mpr ⟨Nat.succ_le_succ (Nat.zero_le _), exceeded⟩

/-- Bytes cost nothing, and they make up for nothing until the chunk is complete. -/
theorem Budgeted.hands {session : Session} (sound : trial.fails = false)
    (begins : Begins trial.reading.download begun) (count : Nat) :
    Budgeted config chunks (trials ++ [trial])
      (advance { begun with phase := .streaming session } count) := by
  obtain ⟨_, _, position, failures, _⟩ := begins.keeps
  have balance := connects_add_open begins
  have read : Budgeted config chunks (trials ++ [trial])
      { begun with phase := .streaming session } := by
    refine budgeted.concat position ?_ ?_ inside started ?_ ?_ ?_
    · rw [sound]
      exact failures
    · rw [sound]
      exact balance
    · change begun.failures + 1 ≤ _
      omega
    · intro _
      change begun.failures < _
      omega
    · intro account impossible
      cases impossible
  rcases advance_counts count { begun with phase := .streaming session } with
    ⟨onward, none, phase⟩ | ⟨position, failures, phase⟩
  · exact read.complete onward none phase
  · exact read.ofSame position failures phase

end

end

theorem budgeted_kept (config : ClientConfig) (chunks : List Chunk) :
    IsKept fun (trials : List (Trial π)) reading =>
      Standing config chunks reading.handed reading.download ∧
        Budgeted config chunks trials reading.download := by
  intro trials trial room unfinished known
  obtain ⟨standing, budgeted⟩ := known
  refine ⟨standing_kept config chunks trials trial room unfinished standing, ?_⟩
  have started : trial.reading.download.failures < budget config := by
    apply budgeted.below
    intro account failed
    rw [failed] at unfinished
    cases unfinished
  have inside : trial.connects = true → trial.position < chunks.length := by
    intro connects
    obtain ⟨chunk, wanted⟩ := Option.isSome_iff_exists.mp connects
    have found := (wanted?_eq_some wanted).2
    rw [standing.sameChunks] at found
    exact (List.getElem?_eq_some_iff.mp found).1
  have moves := turn_moves trial
  generalize trial.turn.reading = next at moves ⊢
  cases moves with
  | ended sound idle none => exact budgeted.ended started inside sound idle none
  | failed fails begins way =>
    have limit := begins.keeps.1.trans standing.sameConfig
    exact budgeted.fails started inside fails begins limit way
  | handed sound begins => exact budgeted.hands started inside sound begins _

/-! ### What a pull comes to -/

section

variable {capacity : Nat} {disk : Disk} {download later : Download} {client after : Client π}
  {outcome : Except ClientError Pulled}

/-- How a pull and the phase that it leaves a download in go together. -/
inductive Comes (capacity : Nat) (later : Download) : Except ClientError Pulled → Prop
  | ended : later.phase = .exhausted → Comes capacity later (.ok .endOfStream)
  | bytes {data : Bytes} : (0 < capacity → data ≠ []) →
    (∀ account, later.phase ≠ .failed account) → Comes capacity later (.ok (.bytes data))
  | gaveUp {account lastError : String} : later.phase = .failed account →
    Comes capacity later (.error (later.exhaustedRetries lastError))

theorem turn_comes {trial : Trial π} {last : Reading π} (turned : trial.turn = .done outcome last) :
    Comes trial.capacity last.download outcome := by
  unfold Trial.turn at turned
  split at turned
  · rename_i data later client attempted
    rcases attempt_bytes_cases attempted with ⟨nonempty, _, begun, session, begins, _, rfl⟩
    cases turned
    refine .bytes (fun _ => nonempty) ?_
    intro account failed
    rcases advance_counts data.length { begun with phase := .streaming session } with
      ⟨_, _, ended | waits⟩ | ⟨_, _, streams⟩
    · rw [ended] at failed
      cases failed
    · rw [waits] at failed
      cases failed
    · rw [streams] at failed
      cases failed
  · rename_i attempted
    rcases attempt_endOfStream_cases attempted with ⟨_, _, rfl, rfl⟩
    cases turned
    exact .ended rfl
  · rename_i attempted
    obtain ⟨retryable, _⟩ := attempt_failure_cases attempted
    dsimp only at turned
    split at turned
    · cases turned
    · cases turned
      simp only [giveUp, retryable, if_true]
      exact .gaveUp rfl

theorem Pulling.comes {reading last : Reading π} {trials : List (Trial π)}
    (pulling : Pulling capacity disk reading trials outcome last) :
    Comes capacity last.download outcome := by
  induction pulling with
  | done turned => exact turn_comes turned
  | again _ _ ih => exact ih

theorem pull_comes (pulled : download.pull capacity disk client = (outcome, later, after)) :
    Comes capacity later outcome := by
  unfold pull at pulled
  split at pulled
  · rename_i account failed
    cases pulled
    exact .gaveUp failed
  · rename_i exhausted
    cases pulled
    exact .ended exhausted
  · rename_i unfailed _
    split at pulled
    · rename_i noRoom
      cases pulled
      refine .bytes ?_ unfailed
      omega
    · obtain ⟨trials, loop⟩ := pulling_pullPatiently rfl pulled []
      exact loop.comes

end

/-! ### Draining -/

section

variable {reading : Reading π} {call : Call} {calls : List Call}

theorem download_step (reading : Reading π) (call : Call) :
    ∃ outcome client, reading.download.pull call.capacity call.disk reading.client =
      (outcome, (reading.step call).download, client) := by
  cases pulled : reading.download.pull call.capacity call.disk reading.client with
  | mk outcome rest =>
    rw [step_eq pulled]
    exact ⟨outcome, rest.2, rfl⟩

/-- A call with room for bytes takes from what is outstanding, or nothing is any more. -/
theorem step_ends (room : 0 < call.capacity) (reading : Reading π) :
    (reading.step call).download.phase.isFinal = true ∨
      (reading.step call).download.outstanding < reading.download.outstanding := by
  obtain ⟨outcome, client, pulled⟩ := download_step reading call
  have comes := pull_comes pulled
  cases comes with
  | ended phase =>
    rw [phase]
    exact .inl rfl
  | bytes nonempty _ => exact .inr (pull_bytes room pulled)
  | gaveUp phase =>
    rw [phase]
    exact .inl rfl

/-- Where nothing is outstanding, nothing can be taken; so a download that has ended stays so. -/
theorem run_ends (room : ∀ call ∈ calls, 0 < call.capacity) (reading : Reading π) :
    (reading.run calls).download.phase.isFinal = true ∨
      (reading.run calls).download.outstanding + calls.length ≤ reading.download.outstanding := by
  induction calls using List.reverseRecOn with
  | nil => exact .inr (Nat.le_refl _)
  | append_singleton calls call ih =>
    have before := ih fun other listed => room other (List.mem_append_left _ listed)
    have more : reading.run (calls ++ [call]) = (reading.run calls).step call := by
      rw [Reading.run, List.foldl_append]
      rfl
    rw [more, List.length_append, List.length_singleton]
    rcases step_ends (room call List.mem_concat_self) (reading.run calls) with ended | less
    · exact .inl ended
    · rcases before with ended | left
      · rw [outstanding, outstanding, if_pos ended] at less
        exact absurd less (Nat.not_lt_zero _)
      · right
        omega

end

/-! ### Within the budget -/

/-- The error tells the chunk that was given up, the bytes of it that were handed out, and that the
budget is spent. -/
def GivesUp (config : ClientConfig) (chunks : List Chunk) (download : Download)
    (error : ClientError) : Prop :=
  ∃ chunk start lastError, chunks[download.position]? = some chunk ∧
    start.toNat = download.offset ∧ download.offset < chunk.byteLength.toNat ∧
    error = .retryExhausted chunk.remotePath start (budget config) lastError

theorem givesUp_of_failed {config : ClientConfig} {chunks : List Chunk} {handed : Bytes}
    {trials : List (Trial π)} {download : Download} {account : String}
    (standing : Standing config chunks handed download)
    (budgeted : Budgeted config chunks trials download)
    (failed : download.phase = .failed account) (lastError : String) :
    GivesUp config chunks download (download.exhaustedRetries lastError) := by
  have owing := standing.failed account failed
  obtain ⟨chunk, found, _⟩ := standing.within owing
  have inside := standing.offset_lt found
  have bound := chunk.byteLength.toNat_lt
  refine ⟨chunk, UInt64.ofNat download.offset, lastError, found, ?_, inside, ?_⟩
  · exact UInt64.toNat_ofNat_of_lt' (Nat.lt_trans inside bound)
  · have path : download.currentPath = chunk.remotePath := by
      rw [currentPath, standing.sameChunks, found]
    rw [exhaustedRetries, path, budgeted.spent account failed, offset, if_neg owing]

/-- Whatever calls are made on a download, and whatever its peer does: each call is a loop that
ends; the failures on a chunk are counted together up to the budget; a pull fails when, and only
when, the count has reached the budget, and it tells the chunk; so no chunk takes more connections
than the budget; and calls with room for bytes come to the end of the download. -/
theorem retries_stay_within_budget (config : ClientConfig) (chunks : List Chunk)
    (client : Client π) (calls : List Call) :
    let filled := chunks.filter fun chunk => !chunk.isEmpty
    let start := Reading.ofChunks config chunks client
    let reading := start.run calls
    budget config < UInt32.size ∧
    (∃ trials, Calls start calls trials reading ∧
      Budgeted config filled trials reading.download ∧
      trials.countP Trial.connects ≤ budget config * filled.length ∧
      ∀ trial ∈ trials, trial.fails = true ↔
        trial.contact = .refused ∨ trial.contact = .cutShort ∨
          (∃ error, trial.readout? = some (.error error)) ∨ trial.readout? = some (.ok [])) ∧
    Standing config filled reading.handed reading.download ∧
    (∀ capacity disk outcome later after,
      reading.download.pull capacity disk reading.client = (outcome, later, after) →
      Standing config filled (reading.handed ++ pulledBytes outcome) later ∧
        (later.failures = budget config ↔ ∃ error, outcome = .error error) ∧
        ∀ error, outcome = .error error → GivesUp config filled later error) ∧
    ((∀ call ∈ calls, 0 < call.capacity) → chunkSize filled < calls.length →
      reading.download.phase.isFinal = true) := by
  intro filled start reading
  have kept := budgeted_kept (π := π) config filled
  have begun : Standing config filled start.handed start.download ∧
      Budgeted config filled ([] : List (Trial π)) start.download :=
    ⟨standing_ofChunks config chunks, budgeted_ofChunks config chunks⟩
  obtain ⟨trials, called⟩ := calls_run start calls
  obtain ⟨standing, budgeted⟩ := called.keeps kept begun
  rw [List.nil_append] at budgeted
  refine ⟨budget_lt config, ⟨trials, called, budgeted, ?_, ?_⟩, standing, ?_, ?_⟩
  · exact countP_connects_le budgeted.inside budgeted.each
  · intro trial _
    exact trial.fails_iff
  · intro capacity disk outcome later after pulled
    obtain ⟨more, last⟩ := called_pull (.pull capacity disk) reading pulled
    obtain ⟨standing, budgeted⟩ := last.keeps kept ⟨standing, budgeted⟩
    refine ⟨standing, ?_, ?_⟩
    · have comes := pull_comes pulled
      cases comes with
      | ended phase =>
        have below := budgeted.below (by rw [phase]; intro account impossible; cases impossible)
        constructor
        · intro spent
          exact absurd spent (Nat.ne_of_lt below)
        · rintro ⟨error, impossible⟩
          cases impossible
      | bytes _ unfailed =>
        have below := budgeted.below unfailed
        constructor
        · intro spent
          exact absurd spent (Nat.ne_of_lt below)
        · rintro ⟨error, impossible⟩
          cases impossible
      | gaveUp phase => exact ⟨fun _ => ⟨_, rfl⟩, fun _ => budgeted.spent _ phase⟩
    · intro error failed
      have comes := pull_comes pulled
      rw [failed] at comes
      cases comes with
      | gaveUp phase => exact givesUp_of_failed standing budgeted phase _
  · intro room enough
    rcases run_ends room start with ended | left
    · exact ended
    · have owed : start.download.outstanding = chunkSize filled := rfl
      have most : (start.run calls).download.outstanding + calls.length ≤ chunkSize filled := left
      omega

end Download

end SegmentOffload
