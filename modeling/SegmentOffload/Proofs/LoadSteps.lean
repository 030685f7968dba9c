import SegmentOffload.Proofs.LoadCopies
import SegmentOffload.Proofs.PullSteps

/-!
A load, step by step.

Each step is one call on the disk or on a connection, so other loads may take theirs in between.
With nobody else at work the steps together are the load.
-/

namespace SegmentOffload

variable {π : Type} [Peer π]

open Host (onDisk)

/-! ### The file -/

namespace Load

/-- What making a directory comes to: when it is refused, one that is there is good enough. -/
def settleStep (directory : String) : Except IoError Unit → Steps (Host π) (Except IoError Unit)
  | .ok () => .done (.ok ())
  | .error error =>
    onDisk fun disk => (if disk.isDirectory directory then .ok () else .error error, disk)

/-- Make the first of some directories, each below the next one.  Only when one is missing on the
way, the next ones are looked at. -/
def lineageSteps : List String → Steps (Host π) (Except IoError Unit)
  | [] => .done (.ok ())
  | directory :: higher =>
    (onDisk fun disk => disk.makeDirectory directory).bind fun
      | .error .notFound =>
        (lineageSteps higher).bind fun
          | .error error => .done (.error error)
          | .ok () =>
            (onDisk fun disk => disk.makeDirectory directory).bind (settleStep directory)
      | outcome => settleStep directory outcome

def prepareSteps (path : String) : Steps (Host π) (Except Failure Location) :=
  let directory := Path.directory path
  (onDisk Disk.call).bind fun
    | .error error => .done (.error (.ofIo error))
    | .ok () =>
      (lineageSteps (Path.ancestors directory)).bind fun
        | .error error => .done (.error (.ofIo error))
        | .ok () =>
          (onDisk fun disk => disk.makeTemporary directory).bind fun
            | .error error => .done
                (.error ((Failure.ofIo error).remark ("Failed to create temp file in " ++ directory)))
            | .ok temporary => .done (.ok temporary)

/-- Move pieces from a download into a file, over at most so many pulls. -/
def copySteps (capacity : Nat) (temporary : Location) : (pulls : Nat) → Download → (moved : Nat) →
    Steps (Host π) (Except TransferError Nat × Download)
  | 0, download, _ => .done (.error .emptyBuffer, download)
  | pulls + 1, download, moved =>
    (download.pullSteps capacity).bind fun
      | (.error error, download) => .done (.error (.source error), download)
      | (.ok .endOfStream, download) => .done (.ok moved, download)
      | (.ok (.bytes data), download) =>
        (onDisk fun disk => disk.append temporary data).bind fun
          | .error error => .done (.error (.sink error), download)
          | .ok () => copySteps capacity temporary pulls download (moved + data.length)

/-- No more than all bytes that a download owes can be pulled, and then its end. -/
def drainSteps (config : ClientConfig) (plan : ReadPlan) (temporary : Location) :
    Steps (Host π) (Except TransferError Nat × Download) :=
  let download := Download.ofPlan config plan
  if 0 < config.readBufferSize.toNat then
    copySteps config.readBufferSize.toNat temporary (download.outstanding + 1) download 0
  else .done (.error .emptyBuffer, download)

def discardSteps (temporary : Location) (failure : Failure) :
    Steps (Host π) (Except Failure LoadOutcome) :=
  (onDisk fun disk => ((), disk.erase temporary)).bind fun _ => .done (.error failure)

def publishSteps (segment : Segment) (path : String) (temporary : Location) (plan : ReadPlan)
    (promised : UInt64) (moved : Nat) : Steps (Host π) (Except Failure LoadOutcome) :=
  if moved ≠ promised.toNat then
    discardSteps temporary
      (.stated s!"loaded {moved} bytes for {segment.label}, read plan promised {promised}")
  else
    (onDisk Disk.sync).bind fun
      | .error error => discardSteps temporary (.ofIo error)
      | .ok () =>
        (onDisk fun disk => disk.persist temporary path).bind fun
          | .error error => .done
              (.error
                (.failed ["Failed to move loaded segment to " ++ path] (.persist error temporary)))
          | .ok () => .done (.ok (.loaded moved plan.chunks.length plan.duplicates.length))

def finishSteps (segment : Segment) (path : String) (temporary : Location) (plan : ReadPlan)
    (promised : UInt64) (ended : Except TransferError Nat × Download) :
    Steps (Host π) (Except Failure LoadOutcome) :=
  ended.2.hangUpStep.bind fun _ =>
    match ended.1 with
    | .error error =>
      discardSteps temporary (error.toFailure.remark ("Failed to load " ++ segment.label))
    | .ok moved => publishSteps segment path temporary plan promised moved

/-- A load, one call after the other. -/
def loadSteps {γ : Type} [ChunkCatalog γ] (config : ClientConfig) (catalog : γ) (segment : Segment)
    (path : String) : Steps (Host π) (Except Failure LoadOutcome) :=
  (onDisk fun disk => (disk.isPresent path, disk)).bind fun isPresent =>
    if isPresent then .done (.ok .alreadyPresent)
    else
      (Steps.call (plan catalog segment)).bind fun
        | .error failure => .done (.error failure)
        | .ok (plan, promised) =>
          (prepareSteps path).bind fun
            | .error failure => .done (.error failure)
            | .ok temporary =>
              (drainSteps config plan temporary).bind
                (finishSteps segment path temporary plan promised)

/-! ### Loading alone -/

theorem isDirectory_of_missing {disk later : Disk} {directory : String}
    (missing : disk.makeDirectory directory = (.error .notFound, later)) :
    later = disk ∧ disk.isDirectory directory = false := by
  unfold Disk.makeDirectory at missing
  split at missing
  · cases missing
  · rename_i free
    split at missing
    · rename_i error followed
      cases missing
      refine ⟨rfl, ?_⟩
      unfold Disk.isDirectory Disk.stat Disk.locate
      rw [if_neg free, followed]
    · split at missing
      · cases missing
      · cases missing

theorem ensureDirectory_ne_missing {disk later : Disk} {directory : String}
    {outcome : Except IoError Unit} (made : disk.makeDirectory directory = (outcome, later))
    (found : outcome ≠ .error .notFound) :
    (disk.ensureDirectory directory).1 ≠ .error .notFound := by
  unfold Disk.ensureDirectory
  rw [made]
  cases outcome with
  | ok nothing => exact found
  | error error =>
    dsimp only
    split
    · intro impossible
      cases impossible
    · exact found

theorem makeLineage_of_found {disk : Disk} {directory : String} (higher : List String)
    (found : (disk.ensureDirectory directory).1 ≠ .error .notFound) :
    disk.makeLineage (directory :: higher) = disk.ensureDirectory directory := by
  unfold Disk.makeLineage
  split
  · rename_i missing
    rw [missing] at found
    exact absurd rfl found
  · rename_i ensured
    exact ensured.symm

omit [Peer π] in
theorem run_settleStep {disk later : Disk} {directory : String} {outcome : Except IoError Unit}
    (made : disk.makeDirectory directory = (outcome, later)) (host : Host π) :
    (settleStep directory outcome).run { host with disk := later } =
      ((disk.ensureDirectory directory).1,
        { host with disk := (disk.ensureDirectory directory).2 }) := by
  unfold Disk.ensureDirectory
  rw [made]
  cases outcome with
  | ok nothing => rfl
  | error error => rfl

omit [Peer π] in
theorem run_lineageSteps (directories : List String) (host : Host π) :
    (lineageSteps directories).run host =
      ((host.disk.makeLineage directories).1,
        { host with disk := (host.disk.makeLineage directories).2 }) := by
  induction directories generalizing host with
  | nil => rfl
  | cons directory higher ih =>
    unfold lineageSteps Disk.makeLineage
    rw [Steps.run_bind, Host.run_onDisk]
    cases made : host.disk.makeDirectory directory with
    | mk outcome disk =>
      have settled := run_settleStep made host
      by_cases missing : outcome = .error .notFound
      · rw [missing] at made ⊢
        obtain ⟨rfl, none⟩ := isDirectory_of_missing made
        have ensured : host.disk.ensureDirectory directory = (.error .notFound, host.disk) := by
          rw [Disk.ensureDirectory, made]
          simp only [none, Bool.false_eq_true, if_false]
        rw [ensured]
        dsimp only
        rw [Steps.run_bind, ih]
        cases host.disk.makeLineage higher with
        | mk others ready =>
          cases others with
          | error error => rfl
          | ok nothing =>
            dsimp only
            rw [Steps.run_bind, Host.run_onDisk]
            exact run_settleStep rfl { host with disk := ready }
      · have other := ensureDirectory_ne_missing made missing
        have whole := makeLineage_of_found higher other
        unfold Disk.makeLineage at whole
        rw [whole, ← settled]
        split
        · rename_i same
          exact absurd same missing
        · rfl

omit [Peer π] in
theorem run_prepareSteps (path : String) (host : Host π) :
    (prepareSteps path).run host =
      ((prepare path host.disk).1, { host with disk := (prepare path host.disk).2 }) := by
  unfold prepareSteps prepare Disk.makeDirectories
  dsimp only
  rw [Steps.run_bind, Host.run_onDisk]
  cases host.disk.call with
  | mk called ready =>
    cases called with
    | error error => rfl
    | ok nothing =>
      dsimp only
      rw [Steps.run_bind, run_lineageSteps]
      dsimp only
      cases ready.makeLineage (Path.ancestors (Path.directory path)) with
      | mk made opened =>
        cases made with
        | error error => rfl
        | ok nothing =>
          dsimp only
          rw [Steps.run_bind, Host.run_onDisk]
          dsimp only
          cases opened.makeTemporary (Path.directory path) with
          | mk tried last =>
            cases tried with
            | error error => rfl
            | ok temporary => rfl

theorem run_copySteps {capacity pulls : Nat} (positive : 0 < capacity) {temporary : Location}
    {copying : Copying π} (location : copying.sink.location = temporary)
    (below : temporary ≠ []) {content : Bytes}
    (there : copying.sink.disk.node? temporary = some (.file content))
    (same : ∀ socket,
      copying.sink.disk.reachSocket socket = copying.source.disk.reachSocket socket)
    (enough : copying.source.download.outstanding < pulls) :
    (copySteps capacity temporary pulls copying.source.download copying.moved).run
        ⟨copying.source.client, copying.sink.disk⟩ =
      let (outcome, last) := copying.drainFrom capacity positive
      ((outcome, last.source.download), ⟨last.source.client, last.sink.disk⟩) := by
  induction pulls generalizing copying content with
  | zero => omega
  | succ pulls ih =>
    have alike : copying.source.download.pull capacity copying.sink.disk copying.source.client =
        copying.source.download.pull capacity copying.source.disk copying.source.client :=
      Download.pull_congr same capacity _ _
    rw [copySteps, Steps.run_bind, Download.run_pullSteps, alike]
    cases taken : copying.source.download.pull capacity copying.source.disk
        copying.source.client with
    | mk outcome rest =>
      obtain ⟨download, client⟩ := rest
      have pulled : Source.pull capacity copying.source =
          (outcome, { copying.source with download, client }) := by
        change copying.source.pull capacity = _
        rw [ClientDownload.pull, taken]
      cases outcome with
      | error error =>
        rw [Transfer.drainFrom_of_finished positive (by rw [Transfer.step, pulled])]
        rfl
      | ok given =>
        cases given with
        | endOfStream =>
          rw [Transfer.drainFrom_of_finished positive (by rw [Transfer.step, pulled])]
          rfl
        | bytes data =>
          dsimp only
          rw [Steps.run_bind, Host.run_onDisk]
          dsimp only
          cases appended : copying.sink.disk.append temporary data with
          | mk written disk =>
            have wrote : Sink.write data copying.sink =
                (written, { copying.sink with disk }) := by
              let written := copying.sink.disk.append copying.sink.location data
              change (written.1, { copying.sink with disk := written.2 }) = _
              unfold written
              rw [location, appended]
            cases written with
            | error error =>
              have failed : copying.step capacity = .finished (.error (.sink error))
                  { copying with
                    source := { copying.source with download, client }
                    sink := { copying.sink with disk } } := by
                simp only [Transfer.step, pulled, wrote]
              rw [Transfer.drainFrom_of_finished positive failed]
              rfl
            | ok nothing =>
              have more : copying.step capacity = .more
                  { source := { copying.source with download, client }
                    sink := { copying.sink with disk }
                    moved := copying.moved + data.length } := by
                simp only [Transfer.step, pulled, wrote]
              rw [Transfer.drainFrom_of_more positive more]
              have filled := (Disk.append_spec below there appended).2 rfl
              have still (socket : String) :
                  disk.reachSocket socket = copying.source.disk.reachSocket socket := by
                rw [Disk.reachSocket_append there below appended, same]
              have less := Download.pull_bytes positive taken
              have left : download.outstanding < pulls := by omega
              exact @ih
                ⟨{ copying.source with download, client }, { copying.sink with disk },
                  copying.moved + data.length⟩ location (content ++ data) filled still left

omit [Peer π] in
theorem run_publishSteps (segment : Segment) (path : String) (temporary : Location)
    (plan : ReadPlan) (promised : UInt64) (moved : Nat) (host : Host π) :
    (publishSteps segment path temporary plan promised moved).run host =
      publish segment path temporary plan promised moved host := by
  unfold publishSteps publish
  split
  · rfl
  · rw [Steps.run_bind, Host.run_onDisk]
    cases host.disk.sync with
    | mk synced disk =>
      cases synced with
      | error error => rfl
      | ok nothing =>
        dsimp only
        rw [Steps.run_bind, Host.run_onDisk]
        dsimp only
        cases disk.persist temporary path with
        | mk persisted last =>
          cases persisted with
          | error error => rfl
          | ok nothing => rfl

theorem run_finishSteps (segment : Segment) (path : String) (temporary : Location)
    (plan : ReadPlan) (promised : UInt64) (outcome : Except TransferError Nat)
    (copying : Copying π) :
    (finishSteps segment path temporary plan promised (outcome, copying.source.download)).run
        ⟨copying.source.client, copying.sink.disk⟩ =
      finish segment path temporary plan promised outcome copying := by
  unfold finishSteps finish
  rw [Steps.run_bind, Download.hangUpStep, Host.run_onClient]
  cases outcome with
  | error error => rfl
  | ok moved => exact run_publishSteps segment path temporary plan promised moved _

theorem run_copy {config : ClientConfig} {segment : Segment} {path : String} {plan : ReadPlan}
    {promised : UInt64} {temporary : Location} {host : Host π} (below : temporary ≠ [])
    (there : host.disk.node? temporary = some (.file [])) :
    ((drainSteps config plan temporary).bind
        (finishSteps segment path temporary plan promised)).run host =
      let copying := beginCopying config plan temporary host
      let (outcome, copied) :=
        Transfer.drain config.readBufferSize.toNat copying.source copying.sink
      finish segment path temporary plan promised outcome copied := by
  unfold drainSteps Transfer.drain
  rw [Steps.run_bind]
  by_cases positive : 0 < config.readBufferSize.toNat
  · rw [if_pos positive]
    dsimp only
    rw [dif_pos positive]
    have drained := @run_copySteps _ _ config.readBufferSize.toNat
      ((Download.ofPlan config plan).outstanding + 1) positive temporary
      (beginCopying config plan temporary host) rfl below [] there (fun _ => rfl)
      (Nat.lt_succ_self _)
    change (copySteps config.readBufferSize.toNat temporary _ (Download.ofPlan config plan) 0).run
      host = _ at drained
    rw [drained]
    exact run_finishSteps segment path temporary plan promised _ _
  · rw [if_neg positive]
    dsimp only
    rw [dif_neg positive]
    exact run_finishSteps segment path temporary plan promised _
      (beginCopying config plan temporary host)

/-- With nobody else at work, the steps of a load are the load. -/
theorem run_loadSteps {γ : Type} [ChunkCatalog γ] (config : ClientConfig) (catalog : γ)
    (segment : Segment) (path : String) (host : Host π) :
    (loadSteps config catalog segment path).run host = load config catalog segment path host := by
  unfold loadSteps load
  rw [Steps.run_bind, Host.run_onDisk]
  dsimp only
  cases host.disk.isPresent path with
  | true => rfl
  | false =>
    rw [if_neg Bool.false_ne_true, if_neg Bool.false_ne_true, Steps.run_bind, Steps.run_call]
    cases plan catalog segment host with
    | mk planned ready =>
      cases planned with
      | error failure => rfl
      | ok answer =>
        obtain ⟨readPlan, promised⟩ := answer
        dsimp only
        unfold copy
        rw [Steps.run_bind, run_prepareSteps]
        cases made : prepare path ready.disk with
        | mk prepared disk =>
          cases prepared with
          | error failure => rfl
          | ok temporary =>
            obtain ⟨below, there⟩ := prepare_eq_ok made
            exact run_copy below there

end Load

end SegmentOffload
