import SegmentOffload.Load
import SegmentOffload.Proofs.Delivery
import SegmentOffload.Proofs.SegmentRows
import SegmentOffload.Proofs.TemporaryFiles

/-!
What a load that goes well leaves at its path.

While bytes are copied, the temporary file holds what the download has handed out.  The download
ends only when everything was handed out; so the file that gets the final name is whole, and over
consecutive rows it is the front of the file that the rows were taken from.
-/

namespace SegmentOffload

open Download (OnTrack Reached HandedWhole chunkSize)

namespace Load

variable {π : Type} [Peer π] {objects : String → Bytes} {config : ClientConfig}
  {chunks : List Chunk} {meant : Nat → π → Prop} {temporary : Location}

/-! ### Copying -/

structure CopyInStep (objects : String → Bytes) (config : ClientConfig) (chunks : List Chunk)
    (meant : Nat → π → Prop) (temporary : Location) (content : Bytes) (copying : Copying π) :
    Prop where
  track : OnTrack objects config chunks meant content copying.source.download copying.source.client
  location : copying.sink.location = temporary
  there : copying.sink.disk.node? temporary = some (.file content)
  counted : copying.moved = content.length

theorem pull_source {capacity : Nat} {source later : ClientDownload π}
    {outcome : Except ClientError Pulled}
    (pulled : Source.pull capacity source = (outcome, later)) :
    source.download.pull capacity source.disk source.client =
      (outcome, later.download, later.client) := by
  change source.pull capacity = (outcome, later) at pulled
  unfold ClientDownload.pull at pulled
  cases taken : source.download.pull capacity source.disk source.client with
  | mk result rest =>
    simp only [taken] at pulled
    cases pulled
    rfl

theorem write_sink {data content : Bytes} {sink later : OpenFile} (below : temporary ≠ [])
    (location : sink.location = temporary)
    (there : sink.disk.node? temporary = some (.file content))
    (wrote : Sink.write data sink = (.ok (), later)) :
    later.location = temporary ∧
      later.disk.node? temporary = some (.file (content ++ data)) := by
  cases appended : sink.disk.append sink.location data with
  | mk outcome disk =>
    simp only [Sink.write, appended] at wrote
    cases wrote
    rw [location] at appended
    refine ⟨location, ?_⟩
    exact (Disk.append_spec below there appended).2 rfl

theorem step_more (serves : ServesObjects objects config chunks meant) (below : temporary ≠ [])
    {capacity : Nat} {content : Bytes} {copying later : Copying π}
    (copied : CopyInStep objects config chunks meant temporary content copying)
    (moved : copying.step capacity = .more later) :
    ∃ further, CopyInStep objects config chunks meant temporary further later := by
  unfold Transfer.step at moved
  split at moved
  · cases moved
  · cases moved
  · rename_i data source pulled
    split at moved
    · rename_i sink wrote
      cases moved
      have sound := Download.pull_isSound serves copied.track (pull_source pulled)
      rcases write_sink below copied.location copied.there wrote with ⟨location, there⟩
      refine ⟨content ++ data, sound.track, location, there, ?_⟩
      rw [List.length_append, copied.counted]
    · cases moved

theorem step_finished (serves : ServesObjects objects config chunks meant) {capacity count : Nat}
    {content : Bytes} {copying last : Copying π}
    (copied : CopyInStep objects config chunks meant temporary content copying)
    (ended : copying.step capacity = .finished (.ok count) last) :
    count = content.length ∧ content = promisedBytes objects chunks ∧
      last.sink.disk.node? temporary = some (.file content) := by
  unfold Transfer.step at ended
  split at ended
  · cases ended
  · rename_i source pulled
    cases ended
    have sound := Download.pull_isSound serves copied.track (pull_source pulled)
    have whole := (sound.track.accounts.whole (sound.ended rfl)).1
    change content ++ [] = _ at whole
    rw [List.append_nil] at whole
    exact ⟨copied.counted, whole, copied.there⟩
  · split at ended
    · cases ended
    · cases ended

theorem drainFrom_spec (serves : ServesObjects objects config chunks meant) (below : temporary ≠ [])
    {capacity count : Nat} (positive : 0 < capacity) {content : Bytes} {copying last : Copying π}
    (copied : CopyInStep objects config chunks meant temporary content copying)
    (drained : copying.drainFrom capacity positive = (.ok count, last)) :
    count = (promisedBytes objects chunks).length ∧
      last.sink.disk.node? temporary = some (.file (promisedBytes objects chunks)) := by
  fun_induction Transfer.drainFrom capacity positive copying generalizing content with
  | case1 copying outcome final ended =>
    cases drained
    rcases step_finished serves copied ended with ⟨counted, whole, there⟩
    rw [← whole]
    exact ⟨counted, there⟩
  | case2 copying later moved _ ih =>
    rcases step_more serves below copied moved with ⟨further, next⟩
    exact ih next drained

/-! ### Giving the file its name -/

theorem prepare_eq_ok {path : String} {disk later : Disk}
    (prepared : prepare path disk = (.ok temporary, later)) :
    temporary ≠ [] ∧ later.node? temporary = some (.file []) := by
  unfold prepare at prepared
  simp only at prepared
  split at prepared
  · cases prepared
  · split at prepared
    · cases prepared
    · rename_i made
      cases prepared
      rcases (Disk.keeps_makeTemporary [] made).2 temporary rfl with ⟨below, _, there⟩
      exact ⟨below, there⟩

omit [Peer π] in
theorem publish_eq_ok {segment : Segment} {path : String} {readPlan : ReadPlan} {promised : UInt64}
    {moved : Nat} {host later : Host π} {outcome : LoadOutcome} {content : Bytes}
    (there : host.disk.node? temporary = some (.file content))
    (published : publish segment path temporary readPlan promised moved host =
      (.ok outcome, later)) :
    outcome = .loaded moved readPlan.chunks.length readPlan.duplicates.length ∧
      later.disk.stat path = .ok (.file content) := by
  unfold publish at published
  split at published
  · cases published
  · split at published
    · cases published
    · rename_i synced
      split at published
      · cases published
      · rename_i persisted
        cases published
        refine ⟨rfl, ?_⟩
        apply Disk.stat_of_persist ?_ persisted
        rw [Disk.node?_call synced]
        exact there

/-- A copy that goes well leaves all that a plan promises at the path. -/
theorem copy_eq_ok (readPlan : ReadPlan)
    (serves : ServesObjects objects config readPlan.chunks meant) {segment : Segment}
    {path : String} {promised : UInt64} {host later : Host π}
    (reached : Reached meant host.client.network) {outcome : LoadOutcome}
    (copied : copy config segment path readPlan promised host = (.ok outcome, later)) :
    let content := promisedBytes objects readPlan.chunks
    outcome = .loaded content.length readPlan.chunks.length readPlan.duplicates.length ∧
      later.disk.stat path = .ok (.file content) := by
  intro content
  have filled : promisedBytes objects (readPlan.chunks.filter fun chunk => !chunk.isEmpty) =
      content := Download.promisedBytes_filter objects readPlan.chunks
  unfold copy at copied
  cases prepared : prepare path host.disk with
  | mk result disk =>
    cases result with
    | error failure =>
      rw [prepared] at copied
      cases copied
    | ok temporary =>
      rcases prepare_eq_ok prepared with ⟨below, there⟩
      simp only [prepared, Transfer.drain] at copied
      split at copied
      · rename_i positive
        have begun : CopyInStep objects config
            (readPlan.chunks.filter fun chunk => !chunk.isEmpty) meant temporary []
            (beginCopying config readPlan temporary { host with disk }) := by
          refine ⟨⟨Download.accounts_ofChunks objects config readPlan.chunks, ?_⟩, rfl, there, rfl⟩
          apply Download.attached_of_not_streaming reached
          intro session impossible
          cases impossible
        cases drained : (beginCopying config readPlan temporary { host with disk }).drainFrom
            config.readBufferSize.toNat positive with
        | mk ended last =>
          change finish segment path temporary readPlan promised
            (Transfer.drainFrom _ positive (beginCopying config readPlan temporary _)).1
            (Transfer.drainFrom _ positive (beginCopying config readPlan temporary _)).2 = _
            at copied
          rw [drained] at copied
          cases ended with
          | error error => cases copied
          | ok count =>
            rcases drainFrom_spec serves.filled below positive begun drained with ⟨counted, file⟩
            rw [filled] at counted file
            rcases publish_eq_ok file copied with ⟨same, found⟩
            rw [counted] at same
            exact ⟨same, found⟩
      · cases copied

/-! ### Consecutive rows -/

omit [Peer π] in
theorem reportAll_nil (host : Host π) : host.reportAll [] = host := by
  rw [Host.reportAll, Client.reportAll, List.append_nil]

omit [Peer π] in
/-- A catalog in a file never fails to tell its rows. -/
theorem plan_eq (catalog : Catalog) (segment : Segment) (host : Host π) :
    plan catalog segment host = planOf (catalog.chunksOf segment) segment host := rfl

omit [Peer π] in
/-- The plan for consecutive rows is the rows themselves, and nothing is reported of it. -/
theorem plan_of_consecutive {catalog : Catalog} {segment : Segment}
    (rowsInOrder : Consecutive 1 0 (catalog.chunksOf segment))
    (fits : chunkSize (catalog.chunksOf segment) < UInt64.size) (host : Host π) :
    ∃ total, plan catalog segment host = (.ok (⟨catalog.chunksOf segment, []⟩, total), host) ∧
      total.toNat = chunkSize (catalog.chunksOf segment) := by
  have noGaps : gaps segment ⟨catalog.chunksOf segment, []⟩ = (.ok (), []) := by
    unfold gaps
    cases rows : catalog.chunksOf segment with
    | nil => rfl
    | cons first rest =>
      rw [rows] at rowsInOrder fits
      apply gapsFrom_of_consecutive segment rowsInOrder
      · omega
      · exact rowsInOrder.2.1
  rcases ReadPlan.sumWordsFrom_byteLength (catalog.chunksOf segment) 0 (by
    rw [UInt64.toNat_zero]
    omega) with ⟨total, summed, exact⟩
  have promised : ReadPlan.totalBytes ⟨catalog.chunksOf segment, []⟩ = .ok total := summed
  refine ⟨total, ?_, ?_⟩
  · rw [plan_eq]
    unfold planOf
    simp only [ReadPlan.resolve_of_consecutive rowsInOrder, noGaps, promised, reportAll_nil]
  · rw [exact, UInt64.toNat_zero, Nat.zero_add]

theorem load_eq_copy {catalog : Catalog} {segment : Segment}
    (rowsInOrder : Consecutive 1 0 (catalog.chunksOf segment))
    (fits : chunkSize (catalog.chunksOf segment) < UInt64.size) {path : String} {host : Host π}
    (absent : host.disk.isPresent path = false) :
    ∃ total : UInt64, total.toNat = chunkSize (catalog.chunksOf segment) ∧
      load config catalog segment path host =
        copy config segment path ⟨catalog.chunksOf segment, []⟩ total host := by
  rcases plan_of_consecutive rowsInOrder fits host with ⟨total, planned, exact⟩
  refine ⟨total, exact, ?_⟩
  rw [load, absent]
  simp only [Bool.false_eq_true, if_false, planned]

/-- A load over consecutive rows whose objects are ranges of one file: when it goes well it leaves
the front of that file, up to where the rows end. -/
theorem load_of_consecutive {catalog : Catalog} {segment : Segment}
    (serves : ServesObjects objects config (catalog.chunksOf segment) meant)
    (rowsInOrder : Consecutive 1 0 (catalog.chunksOf segment)) {content : Bytes}
    (stored : ∀ chunk ∈ catalog.chunksOf segment, objects chunk.remotePath =
      (content.drop chunk.startOffset.toNat).take chunk.byteLength.toNat)
    (within : chunkSize (catalog.chunksOf segment) ≤ content.length)
    (fits : content.length < UInt64.size) {path : String} {host later : Host π}
    (reached : Reached meant host.client.network) (absent : host.disk.isPresent path = false)
    {outcome : LoadOutcome}
    (loaded : load config catalog segment path host = (.ok outcome, later)) :
    let size := chunkSize (catalog.chunksOf segment)
    outcome = .loaded size (catalog.chunksOf segment).length 0 ∧
      later.disk.stat path = .ok (.file (content.take size)) := by
  intro size
  rcases load_eq_copy rowsInOrder (by omega) absent with ⟨total, _, same⟩
  rw [same] at loaded
  rcases copy_eq_ok ⟨catalog.chunksOf segment, []⟩ serves reached loaded with ⟨counted, found⟩
  have front : promisedBytes objects (catalog.chunksOf segment) = content.take size := by
    rw [promisedBytes_of_consecutive rowsInOrder stored, List.drop_zero]
  rw [front] at counted found
  rw [List.length_take_of_le within] at counted
  exact ⟨counted, found⟩

end Load

end SegmentOffload
