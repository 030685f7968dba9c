import SegmentOffload.Proofs.LoadCopies
import SegmentOffload.Proofs.PullSteps

/-!
What a load reports.

Reports are only ever added.  A load reports what is odd about its plan first, the duplicates among
its rows and then the gaps between its chunks; all later reports are about the connections that its
bytes come over.
-/

namespace SegmentOffload

variable {π : Type} [Peer π]

/-! ### Pulling -/

namespace Download

theorem journal_hangUp (download : Download) (client : Client π) :
    (download.hangUp client).journal = client.journal := by
  unfold hangUp
  split
  · rfl
  · rfl

theorem journal_readFrom (session : Session) (capacity : Nat) (download : Download)
    (client : Client π) :
    (readFrom session capacity download client).client.journal = client.journal := by
  unfold readFrom
  split
  · rfl
  · rfl
  · dsimp only [Attempt.client]
    split
    · exact journal_hangUp download _
    · rfl

/-- An attempt reports nothing. -/
theorem journal_attempt {capacity : Nat} {disk : Disk} {download : Download} {client : Client π}
    {result : Attempt π} (attempted : download.attempt capacity disk client = result) :
    result.client.journal = client.journal := by
  rw [← attempted]
  unfold attempt
  split
  · exact journal_readFrom ..
  · split
    · rfl
    · dsimp only
      split
      · rfl
      · exact journal_readFrom ..

/-- Reports are added for attempts that failed, and none is taken back. -/
theorem journal_pullPatiently (capacity : Nat) (disk : Disk) (patience : Nat) (download : Download)
    (client : Client π) :
    client.journal <+: (pullPatiently capacity disk patience download client).2.2.journal := by
  fun_induction pullPatiently capacity disk patience download client with
  | case1 patience download client data later after attempted =>
    rw [← journal_attempt attempted]
    exact List.prefix_rfl
  | case2 patience download client later after attempted =>
    rw [← journal_attempt attempted]
    exact List.prefix_rfl
  | case3 download client error failed after attempted dropped forgiven patience retryable ih =>
    have kept : dropped.journal = client.journal :=
      (journal_hangUp failed after).trans (journal_attempt attempted)
    rw [← kept]
    exact (List.prefix_append _ _).trans ih
  | case4 patience download client error failed after attempted dropped counted final last told
      gaveUp _ =>
    have kept : dropped.journal = client.journal :=
      (journal_hangUp failed after).trans (journal_attempt attempted)
    rw [← kept]
    cases gaveUp
    exact List.prefix_append _ _

theorem journal_pull (capacity : Nat) (disk : Disk) (download : Download) (client : Client π) :
    client.journal <+: (download.pull capacity disk client).2.2.journal := by
  unfold pull
  split
  · exact List.prefix_rfl
  · exact List.prefix_rfl
  · split
    · exact List.prefix_rfl
    · exact journal_pullPatiently ..

end Download

/-! ### Copying -/

/-- What a step leads to. -/
def Transfer.Step.transfer {σ τ : Type} : Step σ τ → Transfer σ τ
  | more transfer => transfer
  | finished _ transfer => transfer

namespace Load

variable {config : ClientConfig} {segment : Segment} {path : String} {host later : Host π}

/-- The reports that a copy's client has made so far. -/
def journalOf (copying : Copying π) : List LogEntry :=
  copying.source.client.journal

theorem journal_source {capacity : Nat} {source after : ClientDownload π}
    {outcome : Except ClientError Pulled}
    (pulled : Source.pull capacity source = (outcome, after)) :
    source.client.journal <+: after.client.journal := by
  have grows := Download.journal_pull capacity source.disk source.download source.client
  rw [pull_source pulled] at grows
  exact grows

theorem journal_step (capacity : Nat) (copying : Copying π) :
    journalOf copying <+: journalOf (copying.step capacity).transfer := by
  unfold Transfer.step
  split
  · rename_i pulled
    exact journal_source pulled
  · rename_i pulled
    exact journal_source pulled
  · rename_i pulled
    split
    · exact journal_source pulled
    · exact journal_source pulled

theorem journal_drainFrom {capacity : Nat} (positive : 0 < capacity) (copying : Copying π) :
    journalOf copying <+: journalOf (copying.drainFrom capacity positive).2 := by
  fun_induction Transfer.drainFrom capacity positive copying with
  | case1 copying outcome last finished =>
    have grows := journal_step capacity copying
    rw [finished] at grows
    exact grows
  | case2 copying later moved _ ih =>
    have grows := journal_step capacity copying
    rw [moved] at grows
    exact grows.trans ih

omit [Peer π] in
theorem client_publish {temporary : Location} {readPlan : ReadPlan} {promised : UInt64}
    {moved : Nat} : (publish segment path temporary readPlan promised moved host).2.client =
      host.client := by
  unfold publish
  split
  · rfl
  · split
    · rfl
    · split
      · rfl
      · rfl

theorem journal_finish {temporary : Location} {readPlan : ReadPlan} {promised : UInt64}
    (outcome : Except TransferError Nat) (copying : Copying π) :
    (finish segment path temporary readPlan promised outcome copying).2.client.journal =
      journalOf copying := by
  have kept : (hostAfter copying).client.journal = journalOf copying :=
    Download.journal_hangUp _ _
  unfold finish
  dsimp only
  split
  · exact kept
  · rw [client_publish]
    exact kept

theorem journal_copy {readPlan : ReadPlan} {promised : UInt64}
    {outcome : Except Failure LoadOutcome}
    (copied : copy config segment path readPlan promised host = (outcome, later)) :
    host.client.journal <+: later.client.journal := by
  unfold copy at copied
  split at copied
  · cases copied
    exact List.prefix_rfl
  · rename_i temporary disk prepared
    let start : Copying π := beginCopying config readPlan temporary { host with disk }
    let drained := Transfer.drain config.readBufferSize.toNat start.source start.sink
    have grows : host.client.journal <+: journalOf drained.2 := by
      unfold drained Transfer.drain
      split
      · rename_i positive
        exact journal_drainFrom positive start
      · exact List.prefix_rfl
    have last : (finish segment path temporary readPlan promised drained.1
        drained.2).2.client.journal = later.client.journal :=
      congrArg (fun ended => ended.2.client.journal) copied
    rw [← last, journal_finish]
    exact grows

/-! ### A load with a plan -/

/-- A load that goes well has copied what its plan says, and the first reports that it added are
those of the plan. -/
theorem load_eq_ok {catalog : Catalog} {bytes chunks duplicates : Nat}
    (loaded : load config catalog segment path host =
      (.ok (.loaded bytes chunks duplicates), later)) :
    let resolution := ReadPlan.resolve (catalog.chunksOf segment)
    ∃ readPlan promised, resolution.outcome = .ok readPlan ∧ (gaps segment readPlan).1 = .ok () ∧
      copy config segment path readPlan promised
          ((host.reportAll resolution.journal).reportAll (gaps segment readPlan).2) =
        (.ok (.loaded bytes chunks duplicates), later) ∧
      host.client.journal ++ resolution.journal ++ (gaps segment readPlan).2 <+:
        later.client.journal := by
  intro resolution
  unfold load at loaded
  split at loaded
  · cases loaded
  · cases planned : plan catalog segment host with
    | mk outcome ready =>
      rw [planned] at loaded
      rw [plan_eq] at planned
      unfold planOf at planned
      dsimp only at planned
      split at planned
      · cases planned
        cases loaded
      · rename_i readPlan resolved
        split at planned
        · cases planned
          cases loaded
        · rename_i counted
          split at planned
          · cases planned
            cases loaded
          · rename_i promised summed
            cases planned
            exact ⟨readPlan, promised, resolved, counted, loaded, journal_copy loaded⟩

end Load

end SegmentOffload
