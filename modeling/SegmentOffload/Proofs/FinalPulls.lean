import SegmentOffload.Proofs.RetryBudget

/-!
What a download answers once it has ended.

Whether a download is exhausted is told by its cursor, and a pull decides by the phase.  The two
agree on every download that calls have led to: with room for bytes, a pull comes to the end exactly
where the cursor stands behind the last chunk.  A download that has said that it has ended, or that
it was given up, says so for good, and it never turns to the proxy again.
-/

namespace SegmentOffload

namespace Download

variable {π : Type} [Peer π]

/-- What a call is answered, before a plain reader makes bytes or a message of it. -/
def Reading.answer (reading : Reading π) (call : Call) : Except ClientError Pulled :=
  (reading.download.pull call.capacity call.disk reading.client).1

/-- Every pull is answered alike, with room for bytes or without, and leaves everything as it was:
the download, the connections, what their peer has in store, and the log. -/
def RestsWith (π : Type) [Peer π] (answer : Except ClientError Pulled) (download : Download) :
    Prop :=
  ∀ (capacity : Nat) (disk : Disk) (client : Client π),
    download.pull capacity disk client = (answer, download, client)

/-! ### Where the cursor stands -/

section

variable {config : ClientConfig} {chunks : List Chunk} {handed : Bytes} {download : Download}
  {capacity : Nat} {disk : Disk} {client after : Client π} {later : Download}

/-- A chunk that owes bytes is one of the chunks. -/
theorem Standing.position_lt (standing : Standing config chunks handed download)
    (owing : download.remaining ≠ 0) : download.position < chunks.length := by
  obtain ⟨chunk, found, _⟩ := standing.within owing
  exact (List.getElem?_eq_some_iff.mp found).1

theorem Standing.isExhausted_iff (standing : Standing config chunks handed download) :
    download.isExhausted = true ↔ download.position = chunks.length := by
  rw [isExhausted, Bool.or_eq_true, decide_eq_true_iff, Bool.and_eq_true, decide_eq_true_iff,
    beq_iff_eq, standing.sameChunks]
  constructor
  · rintro (ended | ⟨behind, _⟩)
    · exact standing.exhausted ended
    · exact Nat.le_antisymm standing.inside behind
  · intro behind
    refine .inr ⟨Nat.le_of_eq behind.symm, ?_⟩
    by_contra owing
    exact absurd behind (Nat.ne_of_lt (standing.position_lt owing))

theorem Standing.isExhausted_eq_false (standing : Standing config chunks handed download)
    (owing : download.remaining ≠ 0) : download.isExhausted = false := by
  rw [Bool.eq_false_iff, Ne, standing.isExhausted_iff]
  exact Nat.ne_of_lt (standing.position_lt owing)

/-- A failure that is forgiven leaves the download at its chunk. -/
theorem turn_again_keeps {trial : Trial π} {next : Reading π} (turned : trial.turn = .again next) :
    next.download.chunks = trial.reading.download.chunks ∧
      next.download.position = trial.reading.download.position := by
  unfold Trial.turn at turned
  split at turned
  · cases turned
  · cases turned
  · rename_i attempted
    rcases attempt_failure_cases attempted with ⟨_, begun, phase, begins, rfl⟩
    obtain ⟨_, chunks, position, _⟩ := begins.keeps
    dsimp only at turned
    split at turned
    · cases turned
      exact ⟨chunks, position⟩
    · cases turned

/-- The end is found where no chunk is left, and no attempt before has moved the cursor there. -/
theorem Pulling.none_left {reading last : Reading π} {trials : List (Trial π)}
    {outcome : Except ClientError Pulled} (ended : outcome = .ok .endOfStream)
    (pulling : Pulling capacity disk reading trials outcome last) :
    reading.download.chunks[reading.download.position]? = none := by
  induction pulling with
  | done turned =>
    rw [ended] at turned
    unfold Trial.turn at turned
    split at turned
    · cases turned
    · rename_i attempted
      exact (attempt_endOfStream_cases attempted).2.1
    · dsimp only at turned
      split at turned
      · cases turned
      · cases turned
  | again turned _ ih =>
    obtain ⟨chunks, position⟩ := turn_again_keeps turned
    have none := ih ended
    rw [chunks, position] at none
    exact none

theorem isExhausted_of_pull (standing : Standing config chunks handed download)
    (pulled : download.pull capacity disk client = (.ok .endOfStream, later, after)) :
    download.isExhausted = true := by
  rw [standing.isExhausted_iff]
  unfold pull at pulled
  split at pulled
  · cases pulled
  · rename_i ended
    exact standing.exhausted ended
  · split at pulled
    · cases pulled
    · obtain ⟨trials, loop⟩ := pulling_pullPatiently rfl pulled []
      have none := loop.none_left rfl
      rw [standing.sameChunks] at none
      exact Nat.le_antisymm standing.inside (List.getElem?_eq_none_iff.mp none)

/-- Behind the last chunk a pull finds the end without turning to the proxy. -/
theorem pull_of_isExhausted (standing : Standing config chunks handed download)
    (ended : download.isExhausted = true) (room : 0 < capacity) :
    download.pull capacity disk client =
      (.ok .endOfStream, { download with phase := .exhausted }, client) := by
  have unowing : download.remaining = 0 := by
    by_contra owing
    rw [standing.isExhausted_eq_false owing] at ended
    cases ended
  have none : download.chunks[download.position]? = none := by
    rw [standing.sameChunks, standing.isExhausted_iff.mp ended, List.getElem?_eq_none_iff]
  unfold pull
  split
  · rename_i account failed
    exact absurd unowing (standing.failed account failed)
  · rename_i exhausted
    rw [← exhausted]
  · have idle : ∀ session, download.phase ≠ .streaming session := by
      intro session streaming
      exact absurd unowing (standing.streaming session streaming)
    have unwanted : download.wanted? = Option.none := by
      rw [wanted?_of_idle idle, none]
    rw [if_neg (Nat.ne_of_gt room), pullPatiently, attempt_of_unwanted unwanted idle]

/-- Without room for bytes, a download that has not ended gives none and does nothing. -/
theorem pull_zero (unfinished : download.phase.isFinal = false) :
    download.pull 0 disk client = (.ok (.bytes []), download, client) := by
  unfold pull
  split
  · rename_i account failed
    rw [failed] at unfinished
    cases unfinished
  · rename_i exhausted
    rw [exhausted] at unfinished
    cases unfinished
  · rfl

theorem pull_ne_nothing (room : 0 < capacity) :
    (download.pull capacity disk client).1 ≠ .ok (.bytes []) := by
  intro answered
  cases pulled : download.pull capacity disk client with
  | mk outcome rest =>
    rw [pulled] at answered
    cases answered
    cases pull_comes pulled with
    | bytes nonempty _ => exact nonempty room rfl

end

/-! ### Answers for good -/

section

variable {download : Download} {reading : Reading π} {answer : Except ClientError Pulled}

theorem restsWith_of_exhausted (ended : download.phase = .exhausted) :
    RestsWith π (.ok .endOfStream) download := by
  intro capacity disk client
  rw [pull, ended]

theorem restsWith_of_failed {account : String} (failed : download.phase = .failed account) :
    RestsWith π (.error (download.exhaustedRetries account)) download := by
  intro capacity disk client
  rw [pull, failed]

theorem RestsWith.run_eq (rests : RestsWith π answer reading.download)
    (nothing : pulledBytes answer = []) (calls : List Call) : reading.run calls = reading := by
  induction calls with
  | nil => rfl
  | cons call calls ih =>
    have stays : reading.step call = reading := by
      rw [step_eq (rests call.capacity call.disk reading.client), nothing, List.append_nil]
    change (reading.step call).run calls = reading
    rw [stays, ih]

/-- How an answer and the phase that it leaves a download in go together. -/
theorem step_comes (reading : Reading π) (call : Call) :
    Comes call.capacity (reading.step call).download (reading.answer call) := by
  cases pulled : reading.download.pull call.capacity call.disk reading.client with
  | mk outcome rest =>
    rw [step_eq pulled, Reading.answer, pulled]
    exact pull_comes pulled

theorem step_failed_iff (reading : Reading π) (call : Call) :
    (∃ account, (reading.step call).download.phase = .failed account) ↔
      ∃ error, reading.answer call = .error error := by
  have comes := step_comes reading call
  generalize reading.answer call = answer at comes ⊢
  cases comes with
  | ended exhausted =>
    constructor
    · rintro ⟨account, failed⟩
      rw [exhausted] at failed
      cases failed
    · rintro ⟨error, impossible⟩
      cases impossible
  | bytes _ unfailed =>
    constructor
    · rintro ⟨account, failed⟩
      exact absurd failed (unfailed account)
    · rintro ⟨error, impossible⟩
      cases impossible
  | gaveUp failed => exact ⟨fun _ => ⟨_, rfl⟩, fun _ => ⟨_, failed⟩⟩

theorem run_concat (reading : Reading π) (calls : List Call) (call : Call) :
    reading.run (calls ++ [call]) = (reading.run calls).step call := by
  rw [Reading.run, List.foldl_append]
  rfl

/-- A download is given up by the call that is answered so, and then it stays given up. -/
theorem run_failed_iff (unfailed : ∀ account, reading.download.phase ≠ .failed account)
    (calls : List Call) :
    (∃ account, (reading.run calls).download.phase = .failed account) ↔
      ∃ before call rest error, calls = before ++ call :: rest ∧
        (reading.run before).answer call = .error error := by
  constructor
  · rintro ⟨account, failed⟩
    rcases List.eq_nil_or_concat calls with rfl | ⟨before, call, rfl⟩
    · exact absurd failed (unfailed account)
    · rw [List.concat_eq_append] at failed ⊢
      rw [run_concat] at failed
      obtain ⟨error, answered⟩ := (step_failed_iff _ call).mp ⟨account, failed⟩
      exact ⟨before, call, [], error, rfl, answered⟩
  · rintro ⟨before, call, rest, error, rfl, answered⟩
    obtain ⟨account, failed⟩ := (step_failed_iff _ call).mpr ⟨error, answered⟩
    refine ⟨account, ?_⟩
    have stays : reading.run (before ++ call :: rest) = (reading.run before).step call := by
      rw [List.append_cons, Reading.run, List.foldl_append]
      change (reading.run (before ++ [call])).run rest = _
      rw [run_concat]
      exact (restsWith_of_failed failed).run_eq rfl rest
    rw [stays]
    exact failed

end

/-! ### The agreement -/

/-- Whatever calls have been made on a download, and whatever its peer does.  A pull with room for
bytes finds the end if, and only if, the download is exhausted, and then without the proxy.  A call
that is answered by the end of the stream, or by an error, settles all later ones: they are answered
by the end, or by an error that tells the same chunk, offset and number of attempts, and nothing is
changed.  A download is given up when, and only when, a call was answered by an error.  And as long
as its phase is no final one, a pull without room for bytes gives none and does nothing, and one
with room for bytes never gives none. -/
theorem final_phases_agree_with_pulls (config : ClientConfig) (chunks : List Chunk)
    (client : Client π) (calls : List Call) :
    let start := Reading.ofChunks config chunks client
    let reading := start.run calls
    let download := reading.download
    (∀ capacity disk (client : Client π), 0 < capacity →
      (download.isExhausted = true ↔
        (download.pull capacity disk client).1 = .ok .endOfStream) ∧
      (download.isExhausted = true → download.pull capacity disk client =
        (.ok .endOfStream, { download with phase := .exhausted }, client))) ∧
    (∀ call, reading.answer call = .ok .endOfStream →
      (∀ more, (reading.step call).run more = reading.step call) ∧
      RestsWith π (.ok .endOfStream) (reading.step call).download) ∧
    (∀ call error, reading.answer call = .error error →
      (∀ more, (reading.step call).run more = reading.step call) ∧
      (reading.step call).download.isExhausted = false ∧
      ∃ path offset attempts account lastError,
        error = .retryExhausted path offset attempts lastError ∧
        RestsWith π (.error (.retryExhausted path offset attempts account))
          (reading.step call).download) ∧
    ((∃ account, download.phase = .failed account) ↔
      ∃ before call rest error, calls = before ++ call :: rest ∧
        (start.run before).answer call = .error error) ∧
    (download.phase = .exhausted → RestsWith π (.ok .endOfStream) download) ∧
    (download.phase.isFinal = false → ∀ disk (client : Client π),
      download.pull 0 disk client = (.ok (.bytes []), download, client) ∧
      ∀ capacity, 0 < capacity → (download.pull capacity disk client).1 ≠ .ok (.bytes [])) := by
  intro start reading download
  have stands (calls : List Call) :
      Standing config (chunks.filter fun chunk => !chunk.isEmpty) (start.run calls).handed
        (start.run calls).download := by
    obtain ⟨trials, called⟩ := calls_run start calls
    have begun := standing_ofChunks config chunks
    exact @Calls.keeps _ _ _ [] trials _ _ calls (standing_kept config _) called begun
  have standing := stands calls
  refine ⟨?_, ?_, ?_, ?_, restsWith_of_exhausted, ?_⟩
  · intro capacity disk client room
    refine ⟨⟨?_, ?_⟩, fun ended => pull_of_isExhausted standing ended room⟩
    · intro ended
      rw [pull_of_isExhausted standing ended room]
    · intro answered
      cases pulled : download.pull capacity disk client with
      | mk outcome rest =>
        rw [pulled] at answered
        cases answered
        exact isExhausted_of_pull standing pulled
  · intro call answered
    have comes := step_comes reading call
    rw [answered] at comes
    cases comes with
    | ended exhausted =>
      have rests : RestsWith π _ (reading.step call).download := restsWith_of_exhausted exhausted
      exact ⟨rests.run_eq rfl, rests⟩
  · intro call error answered
    have next := stands (calls ++ [call])
    rw [run_concat] at next
    have comes := step_comes reading call
    rw [answered] at comes
    cases comes with
    | gaveUp failed =>
      have rests : RestsWith π _ (reading.step call).download := restsWith_of_failed failed
      exact ⟨rests.run_eq rfl, next.isExhausted_eq_false (next.failed _ failed),
        _, _, _, _, _, rfl, rests⟩
  · refine run_failed_iff ?_ calls
    intro account impossible
    cases impossible
  · intro unfinished disk client
    exact ⟨pull_zero unfinished, fun capacity room => pull_ne_nothing room⟩

/-- A download that forgives no failure. -/
def hastyConfig : ClientConfig := { socketConfig with retryLimit := 1 }

/-- The connection breaks off behind the third byte.  A download that forgives that ends behind the
fourth, and one that does not is given up there; the answers are for good. -/
theorem final_phases_agree_with_pulls_over_broken_connection :
    let client : Client ObjectStore := ⟨⟨droppingStore, []⟩, []⟩
    let calls := [Call.pull 2 socketDisk, .pull 2 socketDisk]
    let patient := (Reading.ofChunks socketConfig [frontChunk] client).run
      (calls ++ [.pull 2 socketDisk])
    let hasty := (Reading.ofChunks hastyConfig [frontChunk] client).run calls
    patient.download.pull 1 socketDisk patient.client =
      (.ok .endOfStream, patient.download, patient.client) ∧
    RestsWith ObjectStore (.ok .endOfStream) (patient.step (.pull 1 socketDisk)).download ∧
    hasty.download.pull 0 socketDisk hasty.client =
      (.ok (.bytes []), hasty.download, hasty.client) ∧
    (hasty.step (.pull 2 socketDisk)).download.isExhausted = false ∧
    ∃ account, RestsWith ObjectStore (.error (.retryExhausted "p" 3 1 account))
      (hasty.step (.pull 2 socketDisk)).download := by
  intro client calls patient hasty
  have ended : patient.download.phase = .exhausted := by decide +kernel
  have answered : patient.answer (.pull 1 socketDisk) = .ok .endOfStream := by decide +kernel
  have waiting : hasty.download.phase.isFinal = false := by decide +kernel
  have failed : hasty.answer (.pull 2 socketDisk) = .error (.retryExhausted "p" 3 1
      "transport failure while reading chunk for p: proxy closed the stream before the chunk ended")
      := by decide +kernel
  have ending := final_phases_agree_with_pulls socketConfig [frontChunk] client
    (calls ++ [.pull 2 socketDisk])
  have failing := final_phases_agree_with_pulls hastyConfig [frontChunk] client calls
  -- the readings are kept by name, so that nothing runs them once more
  have first : (Reading.ofChunks socketConfig [frontChunk] client).run
      (calls ++ [.pull 2 socketDisk]) = patient := rfl
  have second : (Reading.ofChunks hastyConfig [frontChunk] client).run calls = hasty := rfl
  dsimp only at ending failing
  rw [first] at ending
  rw [second] at failing
  clear_value patient hasty
  obtain ⟨_, ends, _, _, rests, _⟩ := ending
  obtain ⟨_, _, fails, _, _, waits⟩ := failing
  obtain ⟨_, unexhausted, path, offset, attempts, account, lastError, same, final⟩ :=
    fails _ _ failed
  cases same
  exact ⟨rests ended _ _ _, (ends _ answered).2, (waits waiting socketDisk hasty.client).1,
    unexhausted, account, final⟩

end Download

end SegmentOffload
