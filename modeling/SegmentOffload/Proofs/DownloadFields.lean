import SegmentOffload.Proofs.RetryBudget

/-!
The fields of a download, one by one.

A download keeps its connection beside the stage it is in, counts in words, and looks its chunk up
each time.  Nothing in such a state rules out a stage of streaming without a connection, a position
past the chunks, or more bytes taken from a chunk than it has left: that none of these comes up is an
invariant of the turns that a pull is made of.  A turn that would leave the words, or the list, comes
to a mishap instead of a state.
-/

namespace SegmentOffload

namespace Download

/-- What the fields of a download tell of its progress. -/
inductive Stage where
  | idle
  | awaiting
  | streaming
  | exhausted
  | failed
deriving DecidableEq, Repr

structure Fields where
  config : ClientConfig
  chunks : List Chunk
  position : Nat
  remaining : UInt64
  consumed : UInt64
  session : Option Session
  failures : UInt32
  stage : Stage
  delivered : UInt64
  /-- What the download was given up for. -/
  account : Option String
deriving DecidableEq, Repr

/-- What leaves a pull without an outcome. -/
inductive Mishap where
  /-- There is no chunk at the position. -/
  | index
  | overflow (overflow : Overflow)
deriving DecidableEq, Repr

/-- The state after a turn, and the outcome of the pull when the turn was its last. -/
inductive Next (π : Type) where
  | again (fields : Fields) (client : Client π)
  | done (outcome : Except ClientError Pulled) (fields : Fields) (client : Client π)

def Next.fields {π : Type} : Next π → Fields
  | again fields _ => fields
  | done _ fields _ => fields

namespace Fields

variable {π : Type} [Peer π]

def ofChunks (config : ClientConfig) (chunks : List Chunk) : Fields where
  config
  chunks := chunks.filter fun chunk => !chunk.isEmpty
  position := 0
  remaining := 0
  consumed := 0
  session := none
  failures := 0
  stage := .idle
  delivered := 0
  account := none

/-! ### What the fields stand for -/

def phase (fields : Fields) : DownloadPhase :=
  match fields.stage, fields.session with
  | .idle, _ => .idle
  | .awaiting, _ => .awaiting
  | .streaming, some session => .streaming session
  | .streaming, none => .awaiting
  | .exhausted, _ => .exhausted
  | .failed, _ => .failed (fields.account.getD "")

def view (fields : Fields) : Download where
  config := fields.config
  chunks := fields.chunks
  position := fields.position
  remaining := fields.remaining.toNat
  consumed := fields.consumed.toNat
  failures := fields.failures.toNat
  phase := fields.phase
  delivered := fields.delivered.toNat

/-! ### Turns -/

def closeSession (fields : Fields) (client : Client π) : Fields × Client π :=
  match fields.session with
  | none => (fields, client)
  | some session =>
    ({ fields with session := none }, { client with network := session.close client.network })

/-- One failure more. -/
def countUp (failures : UInt32) : Except Overflow UInt32 :=
  if failures.toNat + 1 < UInt32.size then .ok (failures + 1) else .error .addition

/-- Count a failure, and go on to a new connection or give up. -/
def fail (error : ClientError) (fields : Fields) (client : Client π) : Except Mishap (Next π) :=
  let (fields, client) := fields.closeSession client
  match countUp fields.failures with
  | .error overflow => .error (.overflow overflow)
  | .ok failures =>
    let fields := { fields with failures }
    if error.isRetryable = false ∨ fields.config.retryLimit ≤ fields.failures then
      let final :=
        if error.isRetryable then fields.view.exhaustedRetries error.message else error
      .ok (.done (.error final) { fields with stage := .failed, account := some final.message }
        (client.report (fields.view.failureEntry final)))
    else
      .ok (.again { fields with stage := .awaiting }
        (client.report (fields.view.retryEntry error)))

/-- Ask for the chunk at the position from the offset on. -/
def openCurrent (disk : Disk) (fields : Fields) (client : Client π) : Except Mishap (Next π) :=
  match fields.chunks[fields.position]? with
  | none => .error .index
  | some chunk =>
    match request fields.config chunk fields.consumed.toNat disk client.network with
    | (.error error, network) => fields.fail error { client with network }
    | (.ok session, network) =>
      .ok (.again { fields with session := some session, stage := .streaming }
        { client with network })

/-- Begin the chunk at the position, unless it is begun already, and ask for it. -/
def approach (disk : Disk) (fields : Fields) (client : Client π) : Except Mishap (Next π) :=
  if fields.remaining = 0 then
    if fields.chunks.length ≤ fields.position then
      let (fields, client) := fields.closeSession client
      .ok (.done (.ok .endOfStream) { fields with stage := .exhausted } client)
    else
      match fields.chunks[fields.position]? with
      | none => .error .index
      | some chunk =>
        openCurrent disk { fields with consumed := 0, remaining := chunk.byteLength } client
  else openCurrent disk fields client

/-- Count bytes as handed out. -/
def count (amount : UInt64) (fields : Fields) : Except Overflow Fields := do
  let consumed ← addWords fields.consumed amount
  let remaining ← subtractWords fields.remaining amount
  let delivered ← addWords fields.delivered amount
  return { fields with consumed, remaining, delivered }

/-- Leave the chunk at the position behind. -/
def complete (fields : Fields) (client : Client π) : Fields × Client π :=
  let position := fields.position + 1
  let (fields, client) := closeSession { fields with position, failures := 0 } client
  let stage := if fields.chunks.length ≤ position then .exhausted else .awaiting
  ({ fields with stage }, client)

def handOut (data : Bytes) (fields : Fields) (client : Client π) : Except Mishap (Next π) :=
  match fields.count (UInt64.ofNat data.length) with
  | .error overflow => .error (.overflow overflow)
  | .ok fields =>
    let (fields, client) :=
      if fields.remaining = 0 then fields.complete client else (fields, client)
    .ok (.done (.ok (.bytes data)) fields client)

/-- Read from the connection; when there is none, go on to a new one. -/
def stream (capacity : Nat) (fields : Fields) (client : Client π) : Except Mishap (Next π) :=
  match fields.session with
  | none => .ok (.again { fields with stage := .awaiting } client)
  | some session =>
    match session.read (min capacity fields.remaining.toNat) client.network with
    | (.error error, network) =>
      fields.fail (.transport "reading chunk" fields.view.currentPath error)
        { client with network }
    | (.ok [], network) => fields.fail fields.view.endedEarly { client with network }
    | (.ok data, network) => fields.handOut data { client with network }

/-- One turn of a pull. -/
def turn (capacity : Nat) (disk : Disk) (fields : Fields) (client : Client π) :
    Except Mishap (Next π) :=
  match fields.stage with
  | .failed =>
    .ok (.done (.error (fields.view.exhaustedRetries (fields.account.getD ""))) fields client)
  | .exhausted => .ok (.done (.ok .endOfStream) fields client)
  | stage =>
    if capacity = 0 then .ok (.done (.ok (.bytes [])) fields client)
    else if stage = .streaming then fields.stream capacity client
    else fields.approach disk client

/-! ### The invariant -/

/-- How the fields of a download agree with its chunks and with each other.  The offset into a chunk
lags behind: once the chunk is complete it counts for nothing, until the next one is begun. -/
structure Consistent (config : ClientConfig) (chunks : List Chunk) (fields : Fields) : Prop where
  sameConfig : fields.config = config
  sameChunks : fields.chunks = chunks
  inside : fields.position ≤ chunks.length
  connected : fields.session.isSome ↔ fields.stage = .streaming
  streaming : fields.stage = .streaming →
    fields.position < chunks.length ∧ fields.remaining ≠ 0
  begun : fields.remaining ≠ 0 → ∃ chunk, chunks[fields.position]? = some chunk ∧
    fields.consumed.toNat + fields.remaining.toNat = chunk.byteLength.toNat
  counted : fields.delivered.toNat = chunkSize (chunks.take fields.position) +
    if fields.remaining = 0 then 0 else fields.consumed.toNat
  below : fields.stage ≠ .failed → fields.failures.toNat < budget config
  spent : fields.stage = .failed → fields.failures.toNat = budget config
  exhausted : fields.stage = .exhausted →
    fields.position = chunks.length ∧ fields.remaining = 0

/-- A turn comes to a consistent state; it comes to none only where the chunks hold more bytes than a
word can count. -/
def Proceeds (config : ClientConfig) (chunks : List Chunk) :
    Except Mishap (Next π) → Prop
  | .ok next => Consistent config chunks next.fields
  | .error mishap => mishap = .overflow .addition ∧ UInt64.size ≤ chunkSize chunks

section

variable {config : ClientConfig} {chunks : List Chunk} {fields : Fields} {client : Client π}
  {disk : Disk}

theorem consistent_ofChunks (config : ClientConfig) (chunks : List Chunk) :
    Consistent config (chunks.filter fun chunk => !chunk.isEmpty) (ofChunks config chunks) where
  sameConfig := rfl
  sameChunks := rfl
  inside := Nat.zero_le _
  connected := by simp [ofChunks]
  streaming := by simp [ofChunks]
  begun := by simp [ofChunks]
  counted := by simp [ofChunks, chunkSize]
  below := by
    intro _
    exact Nat.le_max_left 1 _
  spent := by simp [ofChunks]
  exhausted := by simp [ofChunks]

/-- Where a stage of streaming is, there is a connection. -/
theorem Consistent.held (consistent : Consistent config chunks fields)
    (stage : fields.stage = .streaming) : ∃ session, fields.session = some session :=
  Option.isSome_iff_exists.mp (consistent.connected.mpr stage)

theorem Consistent.closed (consistent : Consistent config chunks fields)
    (idle : fields.stage ≠ .streaming) : fields.session = none := by
  cases held : fields.session with
  | none => rfl
  | some session =>
    have stage := consistent.connected.mp (by rw [held]; rfl)
    exact absurd stage idle

/-- The same place in the same chunk, which is begun, at another stage. -/
theorem Consistent.restage (consistent : Consistent config chunks fields)
    (owing : fields.remaining ≠ 0) {session : Option Session} {failures : UInt32} {stage : Stage}
    {account : Option String} (connected : session.isSome ↔ stage = .streaming)
    (unended : stage ≠ .exhausted) (below : stage ≠ .failed → failures.toNat < budget config)
    (spent : stage = .failed → failures.toNat = budget config) :
    Consistent config chunks { fields with session, failures, stage, account } :=
  { consistent with
    connected := connected
    streaming := by
      intro _
      obtain ⟨chunk, found, _⟩ := consistent.begun owing
      exact ⟨(List.getElem?_eq_some_iff.mp found).1, owing⟩
    below := below
    spent := spent
    exhausted := by
      intro ended
      exact absurd ended unended }

/-! ### Failures -/

theorem phase_of_streaming {session : Session} (stage : fields.stage = .streaming)
    (held : fields.session = some session) : fields.phase = .streaming session := by
  simp only [phase, stage, held]

theorem phase_ne_streaming (stage : fields.stage ≠ .streaming) (session : Session) :
    fields.phase ≠ .streaming session := by
  unfold phase
  split <;> simp_all

/-- Closing the connection is hanging up, because only a stage of streaming has one. -/
theorem closeSession_eq (fields : Fields)
    (connected : fields.session.isSome ↔ fields.stage = .streaming) (client : Client π) :
    fields.closeSession client = ({ fields with session := none }, fields.view.hangUp client) := by
  cases held : fields.session with
  | some session =>
    have stage := connected.mp (by rw [held]; rfl)
    simp only [closeSession, held, hangUp, view, phase_of_streaming stage held]
  | none =>
    have stage : fields.stage ≠ .streaming := by
      intro streaming
      rw [← connected, held] at streaming
      cases streaming
    have idle := phase_ne_streaming stage
    have same : { fields with session := none } = fields := by rw [← held]
    rw [same]
    simp only [closeSession, held, hangUp, view]

theorem countUp_eq {failures : UInt32} (room : failures.toNat + 1 < UInt32.size) :
    countUp failures = .ok (failures + 1) ∧ (failures + 1).toNat = failures.toNat + 1 := by
  rw [countUp, if_pos room]
  exact ⟨rfl, (UInt32.toNat_add _ _).trans (Nat.mod_eq_of_lt room)⟩

/-- The fields after one more failure, with the connection let go. -/
def blamed (fields : Fields) : Fields :=
  { fields with session := none, failures := fields.failures + 1 }

/-- A failure that may be tried again is forgiven below the limit, and is the last one there. -/
theorem fail_eq (connected : fields.session.isSome ↔ fields.stage = .streaming)
    (room : fields.failures.toNat + 1 < UInt32.size) {error : ClientError}
    (retryable : error.isRetryable = true) (client : Client π) :
    fields.fail error client = .ok
      (if fields.failures.toNat + 1 < fields.config.retryLimit.toNat then
        .again { fields.blamed with stage := .awaiting }
          ((fields.view.hangUp client).report (fields.blamed.view.retryEntry error))
      else
        let final := fields.blamed.view.exhaustedRetries error.message
        .done (.error final)
          { fields.blamed with stage := .failed, account := some final.message }
          ((fields.view.hangUp client).report (fields.blamed.view.failureEntry final))) := by
  obtain ⟨counts, counted⟩ := countUp_eq room
  have limit : error.isRetryable = false ∨ fields.config.retryLimit ≤ fields.failures + 1 ↔
      ¬ fields.failures.toNat + 1 < fields.config.retryLimit.toNat := by
    simp [retryable, UInt32.le_iff_toNat_le, counted]
  rw [fail, closeSession_eq fields connected]
  simp only [counts]
  by_cases forgiven : fields.failures.toNat + 1 < fields.config.retryLimit.toNat
  · rw [if_pos forgiven, if_neg (fun reached => limit.mp reached forgiven)]
    rfl
  · rw [if_neg forgiven, if_pos (limit.mpr forgiven), retryable]
    rfl

theorem fail_proceeds (consistent : Consistent config chunks fields)
    (owing : fields.remaining ≠ 0) (unfailed : fields.stage ≠ .failed) {error : ClientError}
    (retryable : error.isRetryable = true) :
    Proceeds config chunks (fields.fail error client) := by
  have below := consistent.below unfailed
  have bound := budget_lt config
  have counted : fields.blamed.failures.toNat = fields.failures.toNat + 1 :=
    (countUp_eq (by omega)).2
  rw [fail_eq consistent.connected (by omega) retryable, consistent.sameConfig]
  simp only [Proceeds]
  split
  · rename_i forgiven
    refine consistent.restage owing (by simp [blamed]) (by simp) ?_ (by simp)
    intro _
    rw [counted]
    exact Nat.lt_of_lt_of_le forgiven (Nat.le_max_right _ _)
  · rename_i reached
    refine consistent.restage owing (by simp [blamed]) (by simp) (by simp) ?_
    intro _
    rw [counted]
    -- below the budget before and at the limit after: even a limit of zero allows one failure
    simp only [budget] at below ⊢
    omega

/-! ### New connections -/

/-- The fields with a chunk begun, unless one is. -/
def begin (chunk : Chunk) (fields : Fields) : Fields :=
  if fields.remaining = 0 then { fields with consumed := 0, remaining := chunk.byteLength }
  else fields

theorem begin_keeps (chunk : Chunk) (fields : Fields) :
    (fields.begin chunk).config = fields.config ∧ (fields.begin chunk).chunks = fields.chunks ∧
      (fields.begin chunk).position = fields.position ∧
      (fields.begin chunk).stage = fields.stage := by
  unfold begin
  split
  · exact ⟨rfl, rfl, rfl, rfl⟩
  · exact ⟨rfl, rfl, rfl, rfl⟩

theorem Consistent.begin (filled : ∀ chunk ∈ chunks, chunk.byteLength.toNat ≠ 0)
    (consistent : Consistent config chunks fields) {chunk : Chunk}
    (found : chunks[fields.position]? = some chunk) :
    Consistent config chunks (fields.begin chunk) ∧ (fields.begin chunk).remaining ≠ 0 := by
  have positive := filled chunk (List.mem_of_getElem? found)
  have inside := (List.getElem?_eq_some_iff.mp found).1
  have owing : chunk.byteLength ≠ 0 := by
    intro empty
    rw [empty] at positive
    exact positive rfl
  unfold Fields.begin
  split
  · rename_i none
    refine ⟨{ consistent with
      streaming := ?_, begun := ?_, counted := ?_, exhausted := ?_ }, owing⟩
    · intro _
      exact ⟨inside, owing⟩
    · intro _
      exact ⟨chunk, found, Nat.zero_add _⟩
    · have counted := consistent.counted
      rw [if_pos none] at counted
      simpa using counted
    · intro ended
      have last := (consistent.exhausted ended).1
      omega
  · rename_i begun
    exact ⟨consistent, begun⟩

theorem openCurrent_proceeds (consistent : Consistent config chunks fields)
    (owing : fields.remaining ≠ 0) (unfailed : fields.stage ≠ .failed) :
    Proceeds config chunks (fields.openCurrent disk client) := by
  obtain ⟨chunk, found, _⟩ := consistent.begun owing
  rw [← consistent.sameChunks] at found
  simp only [openCurrent, found]
  split
  · rename_i asked
    exact fail_proceeds consistent owing unfailed (request_isRetryable asked)
  · refine consistent.restage owing (by simp) (by simp) ?_ (by simp)
    intro _
    exact consistent.below unfailed

theorem approach_of_found {chunk : Chunk} (found : fields.chunks[fields.position]? = some chunk)
    (client : Client π) :
    fields.approach disk client = (fields.begin chunk).openCurrent disk client := by
  have inside := (List.getElem?_eq_some_iff.mp found).1
  unfold approach Fields.begin
  split
  · rw [if_neg (Nat.not_le.mpr inside), found]
  · rfl

theorem approach_of_none (consistent : Consistent config chunks fields)
    (none : fields.chunks[fields.position]? = none) (idle : fields.stage ≠ .streaming)
    (disk : Disk) (client : Client π) :
    fields.remaining = 0 ∧ fields.approach disk client =
      .ok (.done (.ok .endOfStream) { fields with stage := .exhausted } client) := by
  have past := List.getElem?_eq_none_iff.mp none
  have nothing : fields.remaining = 0 := by
    by_contra owing
    obtain ⟨chunk, found, _⟩ := consistent.begun owing
    rw [← consistent.sameChunks, none] at found
    cases found
  refine ⟨nothing, ?_⟩
  simp [approach, nothing, past, closeSession, consistent.closed idle]

theorem approach_proceeds (filled : ∀ chunk ∈ chunks, chunk.byteLength.toNat ≠ 0)
    (consistent : Consistent config chunks fields) (idle : fields.stage ≠ .streaming)
    (unfailed : fields.stage ≠ .failed) :
    Proceeds config chunks (fields.approach disk client) := by
  cases found : fields.chunks[fields.position]? with
  | some chunk =>
    rw [approach_of_found found]
    rw [consistent.sameChunks] at found
    obtain ⟨begun, owing⟩ := consistent.begin filled found
    have stage := (begin_keeps chunk fields).2.2.2
    exact openCurrent_proceeds begun owing (by rwa [stage])
  | none =>
    obtain ⟨nothing, ended⟩ := approach_of_none consistent found idle disk client
    have past := List.getElem?_eq_none_iff.mp found
    rw [consistent.sameChunks] at past
    have closed := consistent.closed idle
    rw [ended]
    exact { consistent with
      connected := by simp [Next.fields, closed]
      streaming := by simp [Next.fields]
      below := by
        intro _
        exact consistent.below unfailed
      spent := by simp [Next.fields]
      exhausted := by
        intro _
        exact ⟨Nat.le_antisymm consistent.inside past, nothing⟩ }

/-! ### Bytes -/

/-- The fields with bytes counted as handed out. -/
def moved (amount : Nat) (fields : Fields) : Fields :=
  { fields with
    consumed := fields.consumed + UInt64.ofNat amount
    remaining := fields.remaining - UInt64.ofNat amount
    delivered := fields.delivered + UInt64.ofNat amount }

section

variable {amount : Nat} (within : amount ≤ fields.remaining.toNat)

include within

theorem toNat_amount : (UInt64.ofNat amount).toNat = amount :=
  UInt64.toNat_ofNat_of_lt' (Nat.lt_of_le_of_lt within (UInt64.toNat_lt_size _))

theorem count_eq (consumed : fields.consumed.toNat + amount < UInt64.size) :
    fields.count (UInt64.ofNat amount) =
      if fields.delivered.toNat + amount < UInt64.size then .ok (fields.moved amount)
      else .error .addition := by
  have small := toNat_amount within
  rw [count, addWords, small, if_pos consumed, subtractWords, small, if_pos within, addWords,
    small]
  split <;> rfl

theorem moved_numbers (consumed : fields.consumed.toNat + amount < UInt64.size)
    (delivered : fields.delivered.toNat + amount < UInt64.size) :
    (fields.moved amount).consumed.toNat = fields.consumed.toNat + amount ∧
      (fields.moved amount).remaining.toNat = fields.remaining.toNat - amount ∧
      (fields.moved amount).delivered.toNat = fields.delivered.toNat + amount := by
  have small := toNat_amount within
  have order : UInt64.ofNat amount ≤ fields.remaining := by
    rw [UInt64.le_iff_toNat_le, small]
    exact within
  simp only [moved, UInt64.toNat_add, UInt64.toNat_sub_of_le _ _ order, small]
  exact ⟨Nat.mod_eq_of_lt consumed, trivial, Nat.mod_eq_of_lt delivered⟩

end

/-- The fields with the chunk at the position left behind. -/
def completed (fields : Fields) : Fields :=
  { fields with
    position := fields.position + 1
    failures := 0
    session := none
    stage := if fields.chunks.length ≤ fields.position + 1 then .exhausted else .awaiting }

theorem completed_stage (fields : Fields) :
    (fields.chunks.length ≤ fields.position + 1 ∧ fields.completed.stage = .exhausted) ∨
      fields.completed.stage = .awaiting := by
  by_cases last : fields.chunks.length ≤ fields.position + 1
  · exact .inl ⟨last, if_pos last⟩
  · exact .inr (if_neg last)

theorem complete_eq (fields : Fields)
    (connected : fields.session.isSome ↔ fields.stage = .streaming) (client : Client π) :
    fields.complete client = (fields.completed, fields.view.hangUp client) := by
  rw [complete, closeSession_eq { fields with position := fields.position + 1, failures := 0 }
    connected]
  rfl

/-- The fields with bytes of the chunk handed out, and the chunk left behind when it is complete. -/
def passed (amount : Nat) (fields : Fields) : Fields :=
  if (fields.moved amount).remaining = 0 then (fields.moved amount).completed
  else fields.moved amount

theorem handOut_eq (connected : fields.session.isSome ↔ fields.stage = .streaming) {data : Bytes}
    (within : data.length ≤ fields.remaining.toNat)
    (consumed : fields.consumed.toNat + data.length < UInt64.size) (client : Client π) :
    fields.handOut data client =
      if fields.delivered.toNat + data.length < UInt64.size then
        .ok (.done (.ok (.bytes data)) (fields.passed data.length)
          (if (fields.moved data.length).remaining = 0 then fields.view.hangUp client else client))
      else .error (.overflow .addition) := by
  rw [handOut, count_eq within consumed]
  by_cases delivered : fields.delivered.toNat + data.length < UInt64.size
  · rw [if_pos delivered, if_pos delivered]
    dsimp only [passed]
    split
    · rw [complete_eq (fields.moved data.length) connected]
      rfl
    · rfl
  · rw [if_neg delivered, if_neg delivered]

theorem chunkSize_take_le (chunks : List Chunk) (count : Nat) :
    chunkSize (chunks.take count) ≤ chunkSize chunks := by
  have whole := chunkSize_append (chunks.take count) (chunks.drop count)
  rw [List.take_append_drop] at whole
  omega

/-- What is left of a chunk can be counted: within the chunk, and within all chunks. -/
theorem Consistent.room (consistent : Consistent config chunks fields)
    (owing : fields.remaining ≠ 0) {amount : Nat} (within : amount ≤ fields.remaining.toNat) :
    fields.consumed.toNat + amount < UInt64.size ∧
      fields.delivered.toNat + amount ≤ chunkSize chunks := by
  obtain ⟨chunk, found, size⟩ := consistent.begun owing
  have counted := consistent.counted
  have front := chunkSize_take_succ found
  have most := chunkSize_take_le chunks (fields.position + 1)
  have bound := chunk.byteLength.toNat_lt_size
  rw [if_neg owing] at counted
  omega

theorem Consistent.passed (consistent : Consistent config chunks fields)
    (stage : fields.stage = .streaming) {amount : Nat} (within : amount ≤ fields.remaining.toNat)
    (fits : fields.delivered.toNat + amount < UInt64.size) :
    Consistent config chunks (fields.passed amount) := by
  obtain ⟨inside, owing⟩ := consistent.streaming stage
  obtain ⟨chunk, found, size⟩ := consistent.begun owing
  have counted := consistent.counted
  have front := chunkSize_take_succ found
  obtain ⟨consumed, remaining, delivered⟩ :=
    moved_numbers within (consistent.room owing within).1 fits
  rw [if_neg owing] at counted
  unfold Fields.passed
  split
  · -- the offset of a complete chunk stops counting just when the chunk itself starts to
    rename_i complete
    have ways := completed_stage (fields.moved amount)
    have closed : (fields.moved amount).completed.session = none := rfl
    rw [complete, UInt64.toNat_zero] at remaining
    exact {
      sameConfig := consistent.sameConfig
      sameChunks := consistent.sameChunks
      inside := inside
      connected := by
        rcases ways with ⟨_, ended⟩ | waits
        · simp [ended, closed]
        · simp [waits, closed]
      streaming := by
        rcases ways with ⟨_, ended⟩ | waits
        · simp [ended]
        · simp [waits]
      begun := by
        intro left
        exact absurd complete left
      counted := by
        change (fields.moved amount).delivered.toNat =
          chunkSize (chunks.take (fields.position + 1)) +
            if (fields.moved amount).remaining = 0 then 0 else _
        rw [if_pos complete]
        omega
      below := by
        intro _
        exact Nat.le_max_left 1 _
      spent := by
        rcases ways with ⟨_, ended⟩ | waits
        · simp [ended]
        · simp [waits]
      exhausted := by
        intro ended
        refine ⟨?_, complete⟩
        change fields.position + 1 = chunks.length
        rcases ways with ⟨last, _⟩ | waits
        · change fields.chunks.length ≤ fields.position + 1 at last
          rw [consistent.sameChunks] at last
          omega
        · rw [waits] at ended
          cases ended }
  · rename_i left
    exact { consistent with
      streaming := by
        intro _
        exact ⟨inside, left⟩
      begun := by
        intro _
        exact ⟨chunk, found, by omega⟩
      counted := by
        change (fields.moved amount).delivered.toNat =
          chunkSize (chunks.take fields.position) +
            if (fields.moved amount).remaining = 0 then 0 else (fields.moved amount).consumed.toNat
        rw [if_neg left]
        omega
      exhausted := by
        intro ended
        change fields.stage = .exhausted at ended
        rw [stage] at ended
        cases ended }

theorem handOut_proceeds (consistent : Consistent config chunks fields)
    (stage : fields.stage = .streaming) {data : Bytes}
    (within : data.length ≤ fields.remaining.toNat) :
    Proceeds config chunks (fields.handOut data client) := by
  obtain ⟨short, most⟩ := consistent.room (consistent.streaming stage).2 within
  rw [handOut_eq consistent.connected within short]
  split
  · rename_i fits
    exact consistent.passed stage within fits
  · rename_i large
    exact ⟨rfl, by omega⟩

/-! ### Every turn -/

theorem stream_proceeds (consistent : Consistent config chunks fields)
    (stage : fields.stage = .streaming) (capacity : Nat) :
    Proceeds config chunks (fields.stream capacity client) := by
  obtain ⟨session, held⟩ := consistent.held stage
  have owing := (consistent.streaming stage).2
  have unfailed : fields.stage ≠ .failed := by simp [stage]
  simp only [stream, held]
  split
  · exact fail_proceeds consistent owing unfailed rfl
  · exact fail_proceeds consistent owing unfailed rfl
  · rename_i took
    have limited := Network.read_length_le took
    exact handOut_proceeds consistent stage (by omega)

/-- One turn keeps the fields consistent, and comes to no mishap but a sum beyond the words. -/
theorem turn_proceeds (filled : ∀ chunk ∈ chunks, chunk.byteLength.toNat ≠ 0)
    (consistent : Consistent config chunks fields) (capacity : Nat) (disk : Disk)
    (client : Client π) :
    Proceeds config chunks (fields.turn capacity disk client) := by
  unfold turn
  split
  · exact consistent
  · exact consistent
  · rename_i unfailed _
    split
    · exact consistent
    · split
      · rename_i stage
        exact stream_proceeds consistent stage capacity
      · rename_i idle
        exact approach_proceeds filled consistent idle unfailed

theorem Consistent.turn (filled : ∀ chunk ∈ chunks, chunk.byteLength.toNat ≠ 0)
    (consistent : Consistent config chunks fields) {capacity : Nat} {next : Next π}
    (turned : fields.turn capacity disk client = .ok next) :
    Consistent config chunks next.fields := by
  have proceeds := turn_proceeds filled consistent capacity disk client
  rwa [turned] at proceeds

end

end Fields

end Download

end SegmentOffload
