import SegmentOffload.Proofs.DownloadLoop
import SegmentOffload.Proofs.SegmentRows

/-!
Where a download stands, whatever its peer does.

The cursor of a download is read off the number of bytes that it has handed out: the complete chunks
hold all of them but the offset into the chunk at the position.  No promise of the peer is needed
for that; a peer decides which bytes are handed out, and not where the next ones belong.
-/

namespace SegmentOffload

namespace Download

/-- The cursor of a download agrees with the bytes that were handed out. -/
structure Standing (config : ClientConfig) (chunks : List Chunk) (handed : Bytes)
    (download : Download) : Prop where
  sameConfig : download.config = config
  sameChunks : download.chunks = chunks
  filled : ∀ chunk ∈ chunks, chunk.byteLength.toNat ≠ 0
  inside : download.position ≤ chunks.length
  handedAll : handed.length = download.delivered
  counted : download.delivered = chunkSize (chunks.take download.position) + download.offset
  within : download.remaining ≠ 0 → ∃ chunk, chunks[download.position]? = some chunk ∧
    download.consumed + download.remaining = chunk.byteLength.toNat
  streaming : ∀ session, download.phase = .streaming session → download.remaining ≠ 0
  exhausted : download.phase = .exhausted → download.position = chunks.length
  failed : ∀ account, download.phase = .failed account → download.remaining ≠ 0

variable {π : Type} {config : ClientConfig} {chunks : List Chunk} {handed : Bytes}
  {download : Download}

theorem chunkSize_take_succ {chunk : Chunk} {position : Nat}
    (found : chunks[position]? = some chunk) :
    chunkSize (chunks.take (position + 1)) =
      chunkSize (chunks.take position) + chunk.byteLength.toNat := by
  rw [List.take_add_one, found, chunkSize_append]
  rfl

theorem standing_ofChunks (config : ClientConfig) (chunks : List Chunk) :
    Standing config (chunks.filter fun chunk => !chunk.isEmpty) [] (ofChunks config chunks) where
  sameConfig := rfl
  sameChunks := rfl
  filled := (accounts_ofChunks (fun _ => []) config chunks).filled
  inside := Nat.zero_le _
  handedAll := rfl
  counted := rfl
  within := by
    intro begun
    exact absurd rfl begun
  streaming := by
    intro session impossible
    cases impossible
  exhausted := by
    intro impossible
    cases impossible
  failed := by
    intro account impossible
    cases impossible

namespace Standing

theorem offset_lt (standing : Standing config chunks handed download) {chunk : Chunk}
    (found : chunks[download.position]? = some chunk) :
    download.offset < chunk.byteLength.toNat := by
  unfold offset
  split
  · exact Nat.pos_of_ne_zero (standing.filled chunk (List.mem_of_getElem? found))
  · rename_i begun
    obtain ⟨other, same, size⟩ := standing.within begun
    rw [found] at same
    cases same
    omega

/-- Beginning a chunk does not move the cursor. -/
theorem begins {begun : Download} (standing : Standing config chunks handed download)
    (begin : Begins download begun) :
    begun.remaining ≠ 0 ∧ begun.consumed = download.offset ∧
      ∃ chunk, chunks[download.position]? = some chunk ∧
        begun.consumed + begun.remaining = chunk.byteLength.toNat := by
  cases begin with
  | streaming phase =>
    have owing := standing.streaming _ phase
    refine ⟨owing, ?_, standing.within owing⟩
    rw [offset, if_neg owing]
  | anew _ found =>
    rename_i chunk _
    rw [standing.sameChunks] at found
    have positive := standing.filled chunk (List.mem_of_getElem? found)
    refine ⟨?_, consumed_begin chunk download, chunk, found, ?_⟩
    · unfold Download.begin
      split
      · exact positive
      · rename_i owing
        exact owing
    · unfold Download.begin
      split
      · exact Nat.zero_add _
      · rename_i owing
        obtain ⟨other, same, size⟩ := standing.within owing
        rw [found] at same
        cases same
        exact size

/-- A failure leaves the cursor where it was. -/
theorem fail {begun : Download} (standing : Standing config chunks handed download)
    (begin : Begins download begun) {phase : DownloadPhase} (failures : Nat)
    (unfinished : phase ≠ .exhausted) :
    Standing config chunks handed { begun with phase, failures } := by
  obtain ⟨owing, consumed, chunk, found, size⟩ := standing.begins begin
  obtain ⟨sameConfig, sameChunks, samePosition, _, sameDelivered⟩ := begin.keeps
  exact {
    sameConfig := sameConfig.trans standing.sameConfig
    sameChunks := sameChunks.trans standing.sameChunks
    filled := standing.filled
    inside := by
      change begun.position ≤ _
      rw [samePosition]
      exact standing.inside
    handedAll := standing.handedAll.trans sameDelivered.symm
    counted := by
      change begun.delivered = chunkSize (chunks.take begun.position) +
        if begun.remaining = 0 then 0 else begun.consumed
      rw [if_neg owing, sameDelivered, samePosition, consumed]
      exact standing.counted
    within := by
      intro _
      refine ⟨chunk, ?_, size⟩
      change chunks[begun.position]? = _
      rw [samePosition]
      exact found
    streaming := by
      intro session _
      exact owing
    exhausted := by
      intro ended
      exact absurd ended unfinished
    failed := by
      intro account _
      exact owing }

/-- Bytes move the cursor by as many as there are, and past the chunk when it is complete. -/
theorem advance {begun : Download} (standing : Standing config chunks handed download)
    (begin : Begins download begun) (session : Session) {data : Bytes}
    (within : data.length ≤ begun.remaining) :
    Standing config chunks (handed ++ data)
      (Download.advance { begun with phase := .streaming session } data.length) := by
  obtain ⟨owing, consumed, chunk, found, size⟩ := standing.begins begin
  obtain ⟨sameConfig, sameChunks, samePosition, _, sameDelivered⟩ := begin.keeps
  have config := sameConfig.trans standing.sameConfig
  have chunks' := sameChunks.trans standing.sameChunks
  have inside := (List.getElem?_eq_some_iff.mp found).1
  have front := chunkSize_take_succ found
  have counted := standing.counted
  have handedAll : (handed ++ data).length = begun.delivered + data.length := by
    rw [List.length_append, standing.handedAll, sameDelivered]
  unfold Download.advance
  dsimp only
  split
  · rename_i complete
    exact {
      sameConfig := config
      sameChunks := chunks'
      filled := standing.filled
      inside := by
        change begun.position + 1 ≤ _
        omega
      handedAll := handedAll
      counted := by
        change begun.delivered + data.length = chunkSize (chunks.take (begun.position + 1)) +
          if begun.remaining - data.length = 0 then 0 else _
        rw [if_pos complete, samePosition, front]
        omega
      within := by
        intro left
        exact absurd complete left
      streaming := by
        intro session streams
        dsimp only at streams
        split at streams <;> cases streams
      exhausted := by
        intro ended
        change begun.position + 1 = _
        by_cases last : begun.chunks.length ≤ begun.position + 1
        · rw [chunks'] at last
          omega
        · dsimp only at ended
          rw [if_neg last] at ended
          cases ended
      failed := by
        intro account given
        dsimp only at given
        split at given <;> cases given }
  · rename_i left
    exact {
      sameConfig := config
      sameChunks := chunks'
      filled := standing.filled
      inside := by
        change begun.position ≤ _
        omega
      handedAll := handedAll
      counted := by
        change begun.delivered + data.length = chunkSize (chunks.take begun.position) +
          if begun.remaining - data.length = 0 then 0 else begun.consumed + data.length
        rw [if_neg left, samePosition]
        omega
      within := by
        intro _
        refine ⟨chunk, ?_, ?_⟩
        · change chunks[begun.position]? = _
          rw [samePosition]
          exact found
        · change begun.consumed + data.length + (begun.remaining - data.length) = _
          omega
      streaming := by
        intro _ _
        exact left
      exhausted := by
        intro impossible
        cases impossible
      failed := by
        intro account impossible
        cases impossible }

theorem exhaust (standing : Standing config chunks handed download)
    (none : download.chunks[download.position]? = none) :
    Standing config chunks handed { download with phase := .exhausted } where
  sameConfig := standing.sameConfig
  sameChunks := standing.sameChunks
  filled := standing.filled
  inside := standing.inside
  handedAll := standing.handedAll
  counted := standing.counted
  within := standing.within
  streaming := by
    intro session impossible
    cases impossible
  exhausted := by
    intro _
    rw [standing.sameChunks] at none
    have beyond := List.getElem?_eq_none_iff.mp none
    have inside := standing.inside
    change download.position = _
    omega
  failed := by
    intro account impossible
    cases impossible

end Standing

/-! ### One attempt, seen from the cursor -/

variable [Peer π]

/-- What a turn of the loop makes of a reading: it finds the end, the chunk at the position fails
once more, or the next bytes of that chunk are handed out. -/
inductive Moves (trial : Trial π) : Reading π → Prop
  | ended : trial.fails = false → (∀ session, trial.reading.download.phase ≠ .streaming session) →
    trial.reading.download.chunks[trial.position]? = none →
    Moves trial
      { trial.reading with download := { trial.reading.download with phase := .exhausted } }
  | failed {begun : Download} {phase : DownloadPhase} {client : Client π} : trial.fails = true →
    Begins trial.reading.download begun →
    phase = .awaiting ∧ begun.failures + 1 < begun.config.retryLimit.toNat ∨
      (∃ account, phase = .failed account) ∧ begun.config.retryLimit.toNat ≤ begun.failures + 1 →
    Moves trial
      ⟨{ begun with phase, failures := begun.failures + 1 }, client, trial.reading.handed⟩
  | handed {begun : Download} {session : Session} {client : Client π} {data : Bytes} :
    trial.fails = false → Begins trial.reading.download begun → data ≠ [] →
    data.length ≤ trial.capacity → data.length ≤ begun.remaining →
    Moves trial ⟨advance { begun with phase := .streaming session } data.length, client,
      trial.reading.handed ++ data⟩

theorem turn_moves (trial : Trial π) : Moves trial trial.turn.reading := by
  unfold Trial.turn
  cases attempted : trial.result with
  | bytes data later client =>
    rcases attempt_bytes_cases attempted with
      ⟨nonempty, limited, begun, session, begins, within, rfl⟩
    refine .handed ?_ begins nonempty limited within
    rw [Trial.fails, attempted]
  | endOfStream later client =>
    rcases attempt_endOfStream_cases attempted with ⟨idle, none, rfl, rfl⟩
    refine .ended ?_ idle none
    rw [Trial.fails, attempted]
  | failure error failed client =>
    rcases attempt_failure_cases attempted with ⟨retryable, begun, phase, begins, rfl⟩
    have fails : trial.fails = true := by
      rw [Trial.fails, attempted]
    dsimp only
    split
    · rename_i forgiven
      exact @Moves.failed _ _ _ begun _ _ fails begins (.inl ⟨rfl, forgiven.2⟩)
    · rename_i spent
      refine @Moves.failed _ _ _ begun _ _ fails begins (.inr ⟨⟨_, rfl⟩, ?_⟩)
      by_contra below
      exact spent ⟨retryable, Nat.lt_of_not_le below⟩

theorem standing_kept (config : ClientConfig) (chunks : List Chunk) :
    IsKept fun (_ : List (Trial π)) reading =>
      Standing config chunks reading.handed reading.download := by
  intro trials trial _ _ standing
  have moves := turn_moves trial
  generalize trial.turn.reading = next at moves ⊢
  cases moves with
  | ended _ _ none => exact standing.exhaust none
  | failed _ begins way =>
    refine standing.fail begins _ ?_
    rintro rfl
    rcases way with ⟨impossible, _⟩ | ⟨⟨_, impossible⟩, _⟩
    · cases impossible
    · cases impossible
  | handed _ begins _ _ within => exact standing.advance begins _ within

end Download

end SegmentOffload
