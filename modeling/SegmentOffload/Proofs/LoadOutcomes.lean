import SegmentOffload.Peer.Unreachable
import SegmentOffload.Proofs.FileDrafts
import SegmentOffload.Proofs.LoadCopies
import SegmentOffload.Proofs.RetryBudget

/-!
All that a load can come to.

A file that is there is left alone, and nothing is asked of the peer.  A load that fails removes its
draft, so that only directories are new; but a draft that could not take its name is kept by the
failure, and is removed with it.  Nothing is at the path then, as long as the path leaves upwards only
directories that were there before.  A load that goes well has placed what its download handed out,
all of it.  No promise of the peer is needed for that: it is about where bytes go, and not about which
bytes a peer sends.
-/

namespace SegmentOffload

open Disk (Drafted Grown Placed)
open Download (Call Reading Standing chunkSize)

namespace Download

theorem chunkSize_filter (chunks : List Chunk) :
    chunkSize (chunks.filter fun chunk => !chunk.isEmpty) = chunkSize chunks := by
  induction chunks with
  | nil => rfl
  | cons chunk rest ih =>
    by_cases empty : chunk.isEmpty = true
    · have none : chunk.byteLength.toNat = 0 := by
        rw [Chunk.isEmpty, beq_iff_eq] at empty
        rw [empty]
        rfl
      rw [List.filter_cons_of_neg (by rw [empty]; exact Bool.false_ne_true), ih, chunkSize, none,
        Nat.zero_add]
    · rw [Bool.not_eq_true] at empty
      rw [List.filter_cons_of_pos (by rw [empty]; rfl), chunkSize, chunkSize, ih]

/-- A reading whose download has come to its end has handed out as many bytes as its chunks are
long. -/
theorem length_handed_of_exhausted {π : Type} [Peer π] {config : ClientConfig}
    {chunks : List Chunk} {client : Client π} {calls : List Call}
    (ended : ((Reading.ofChunks config chunks client).run calls).download.phase = .exhausted) :
    ((Reading.ofChunks config chunks client).run calls).handed.length = chunkSize chunks := by
  obtain ⟨trials, called⟩ := calls_run (Reading.ofChunks config chunks client) calls
  let filled := chunks.filter fun chunk => !chunk.isEmpty
  let stands (_ : List (Trial π)) (reading : Reading π) : Prop :=
    Standing config filled reading.handed reading.download
  have begun : stands [] (Reading.ofChunks config chunks client) := standing_ofChunks config chunks
  have standing : stands ([] ++ trials) _ := called.keeps (standing_kept config filled) begun
  have last := standing.exhausted ended
  have whole := standing.counted
  have beyond : filled[((Reading.ofChunks config chunks client).run calls).download.position]? =
      none := by
    rw [List.getElem?_eq_none_iff, last]
  have unbegun : ((Reading.ofChunks config chunks client).run calls).download.offset = 0 := by
    by_contra inside
    unfold offset at inside
    split at inside
    · exact inside rfl
    · rename_i owing
      obtain ⟨chunk, found, _⟩ := standing.within owing
      rw [beyond] at found
      cases found
  rw [last, List.take_length, unbegun, chunkSize_filter] at whole
  exact standing.handedAll.trans whole

end Download

namespace Load

variable {π : Type} [Peer π] {config : ClientConfig} {path : String} {earlier later prepared : Disk}
  {temporary : Location} {capacity : Nat} {start : Reading π}

/-! ### Copying -/

/-- A reading after so many pulls of the same capacity. -/
def pulled (capacity : Nat) (disk : Disk) (start : Reading π) (pulls : Nat) : Reading π :=
  start.run (List.replicate pulls (.pull capacity disk))

theorem pulled_succ (capacity : Nat) (disk : Disk) (start : Reading π) (pulls : Nat) :
    pulled capacity disk start (pulls + 1) =
      (pulled capacity disk start pulls).step (.pull capacity disk) := by
  rw [pulled, List.replicate_succ', Reading.run, List.foldl_append]
  rfl

/-- After some pulls, the draft holds what was handed out. -/
structure CopiesInto (path : String) (earlier prepared : Disk) (temporary : Location)
    (capacity : Nat) (start : Reading π) (pulls : Nat) (copying : Copying π) : Prop where
  disk : copying.source.disk = prepared
  download : copying.source.download = (pulled capacity prepared start pulls).download
  client : copying.source.client = (pulled capacity prepared start pulls).client
  location : copying.sink.location = temporary
  drafted : Drafted path earlier temporary (pulled capacity prepared start pulls).handed
    copying.sink.disk
  counted : copying.moved = (pulled capacity prepared start pulls).handed.length

/-- How copying ends: with some draft, and when it ends well with all that was handed out. -/
def EndsIn (path : String) (earlier prepared : Disk) (temporary : Location) (capacity : Nat)
    (start : Reading π) (outcome : Except TransferError Nat) (last : Copying π) : Prop :=
  ∃ written, Drafted path earlier temporary written last.sink.disk ∧
    ∀ count, outcome = .ok count → ∃ pulls,
      (pulled capacity prepared start pulls).download.phase = .exhausted ∧
      written = (pulled capacity prepared start pulls).handed ∧ count = written.length

theorem CopiesInto.pull {pulls : Nat} {copying : Copying π} {source : ClientDownload π}
    {outcome : Except ClientError Pulled}
    (copies : CopiesInto path earlier prepared temporary capacity start pulls copying)
    (taken : Source.pull capacity copying.source = (outcome, source)) :
    source.disk = prepared ∧ pulled capacity prepared start (pulls + 1) =
      ⟨source.download, source.client,
        (pulled capacity prepared start pulls).handed ++ Download.pulledBytes outcome⟩ := by
  have same := pull_source taken
  have kept : source.disk = copying.source.disk := by
    change copying.source.pull capacity = (outcome, source) at taken
    cases taken
    rfl
  rw [copies.disk, copies.download, copies.client] at same
  refine ⟨kept.trans copies.disk, ?_⟩
  rw [pulled_succ, Reading.step, same]

theorem CopiesInto.step_more {pulls : Nat} {copying later : Copying π}
    (copies : CopiesInto path earlier prepared temporary capacity start pulls copying)
    (moved : copying.step capacity = .more later) :
    CopiesInto path earlier prepared temporary capacity start (pulls + 1) later := by
  unfold Transfer.step at moved
  split at moved
  · cases moved
  · cases moved
  · rename_i data source taken
    obtain ⟨disk, next⟩ := copies.pull taken
    split at moved
    · rename_i sink wrote
      cases moved
      cases appended : copying.sink.disk.append copying.sink.location data with
      | mk outcome disk' =>
        simp only [Sink.write, appended] at wrote
        cases wrote
        rw [copies.location] at appended
        obtain ⟨written, drafted, whole⟩ := copies.drafted.append appended
        rw [whole rfl] at drafted
        exact {
          disk := disk
          download := by rw [next]
          client := by rw [next]
          location := copies.location
          drafted := by
            rw [next]
            exact drafted
          counted := by
            rw [next, copies.counted]
            exact (List.length_append).symm }
    · cases moved

theorem CopiesInto.step_finished {pulls : Nat} {copying last : Copying π}
    {outcome : Except TransferError Nat}
    (copies : CopiesInto path earlier prepared temporary capacity start pulls copying)
    (ended : copying.step capacity = .finished outcome last) :
    EndsIn path earlier prepared temporary capacity start outcome last := by
  unfold Transfer.step at ended
  split at ended
  · cases ended
    refine ⟨_, copies.drafted, ?_⟩
    intro count impossible
    cases impossible
  · rename_i source taken
    obtain ⟨_, next⟩ := copies.pull taken
    have comes := Download.pull_comes (pull_source taken)
    cases ended
    refine ⟨_, copies.drafted, ?_⟩
    intro count same
    cases same
    refine ⟨pulls + 1, ?_, ?_, copies.counted⟩
    · rw [next]
      cases comes with
      | ended phase => exact phase
    · rw [next]
      exact (List.append_nil _).symm
  · rename_i data source taken
    split at ended
    · cases ended
    · rename_i error sink wrote
      cases ended
      cases appended : copying.sink.disk.append copying.sink.location data with
      | mk outcome disk =>
        simp only [Sink.write, appended] at wrote
        cases wrote
        rw [copies.location] at appended
        obtain ⟨written, drafted, _⟩ := copies.drafted.append appended
        refine ⟨written, drafted, ?_⟩
        intro count impossible
        cases impossible

theorem CopiesInto.drainFrom {pulls : Nat} {copying last : Copying π}
    {outcome : Except TransferError Nat} {positive : 0 < capacity}
    (copies : CopiesInto path earlier prepared temporary capacity start pulls copying)
    (drained : copying.drainFrom capacity positive = (outcome, last)) :
    EndsIn path earlier prepared temporary capacity start outcome last := by
  fun_induction Transfer.drainFrom capacity positive copying generalizing pulls with
  | case1 copying ended final finished =>
    cases drained
    exact copies.step_finished finished
  | case2 copying later moved _ ih => exact ih (copies.step_more moved) drained

/-- Copying into an empty draft, with room for bytes or without. -/
theorem drain_ends {readPlan : ReadPlan} (host : Host π) {outcome : Except TransferError Nat}
    {last : Copying π} (drafted : Drafted path earlier temporary [] host.disk)
    (drained : Transfer.drain config.readBufferSize.toNat
      (beginCopying config readPlan temporary host).source
      (beginCopying config readPlan temporary host).sink = (outcome, last)) :
    EndsIn path earlier host.disk temporary config.readBufferSize.toNat
      (Reading.ofChunks config readPlan.chunks host.client) outcome last := by
  unfold Transfer.drain at drained
  split at drained
  · have copies : CopiesInto path earlier host.disk temporary config.readBufferSize.toNat
        (Reading.ofChunks config readPlan.chunks host.client) 0
        (beginCopying config readPlan temporary host) :=
      ⟨rfl, rfl, rfl, rfl, drafted, rfl⟩
    exact copies.drainFrom drained
  · cases drained
    refine ⟨[], drafted, ?_⟩
    intro count impossible
    cases impossible

/-! ### What is left -/

/-- A failure leaves nothing new but directories, and the draft that it keeps in the directory of
the path. -/
def LeftBy (path : String) (earlier later : Disk) (failure : Failure) : Prop :=
  match failure.kept? with
  | none => Grown path earlier later
  | some temporary => temporary.dropLast = earlier.place (Path.directory path) ∧
      ∃ content, Drafted path earlier temporary content later

/-- What comes of something that can fail, and then leaves what its failure keeps. -/
def LeftOr {α : Type} (path : String) (earlier later : Disk) (well : α → Prop) :
    Except Failure α → Prop
  | .error failure => LeftBy path earlier later failure
  | .ok answer => well answer

/-- Without the failure, only directories are new. -/
theorem LeftBy.letGo {failure : Failure} (left : LeftBy path earlier later failure) :
    Grown path earlier (failure.letGo later) := by
  unfold LeftBy at left
  unfold Failure.letGo
  cases kept : failure.kept? with
  | none =>
    rw [kept] at left
    exact left
  | some temporary =>
    rw [kept] at left
    obtain ⟨_, _, drafted⟩ := left
    exact drafted.grown

/-- A path that named nothing names nothing then, and before at most the file that is kept. -/
theorem LeftBy.absent {failure : Failure} (left : LeftBy path earlier later failure)
    (absent : earlier.isPresent path = false) (tree : earlier.IsTree)
    (climbs : earlier.Climbs path) :
    (failure.letGo later).isPresent path = false ∧
      (failure.kept? ≠ some (earlier.place path) → later.isPresent path = false) := by
  have gone := (left.letGo.isPresent tree climbs).trans absent
  refine ⟨gone, ?_⟩
  intro elsewhere
  unfold LeftBy at left
  unfold Failure.letGo at gone
  cases kept : failure.kept? with
  | none =>
    rw [kept] at gone
    exact gone
  | some temporary =>
    rw [kept] at left elsewhere
    obtain ⟨_, _, drafted⟩ := left
    exact drafted.isPresent tree climbs absent fun same => elsewhere (congrArg some same)

theorem kept?_toFailure (error : TransferError) (text : String) :
    (error.toFailure.remark text).kept? = none := by
  cases error with
  | _ => rfl

/-! ### The file -/

theorem prepare_cases {disk later : Disk} {outcome : Except Failure Location}
    (made : prepare path disk = (outcome, later)) :
    LeftOr path disk later (fun file => file.dropLast = disk.place (Path.directory path) ∧
      Drafted path disk file [] later) outcome := by
  unfold prepare at made
  simp only at made
  cases directories : disk.makeDirectories (Path.directory path) with
  | mk result ready =>
    have grown := Disk.grown_makeDirectories directories
    rw [directories] at made
    cases result with
    | error error =>
      cases made
      exact grown
    | ok nothing =>
      cases tried : ready.makeTemporary (Path.directory path) with
      | mk result last =>
        have drafted := Disk.drafted_makeTemporary grown tried
        simp only [tried] at made
        cases result with
        | error error =>
          cases made
          exact drafted
        | ok file =>
          cases made
          exact ⟨(Disk.dropLast_of_makeTemporary tried).trans (grown.place _), drafted⟩

omit [Peer π] in
theorem publish_cases {segment : Segment} {readPlan : ReadPlan} {promised : UInt64} {moved : Nat}
    {content : Bytes} {host later : Host π} {outcome : Except Failure LoadOutcome}
    (inside : temporary.dropLast = earlier.place (Path.directory path))
    (drafted : Drafted path earlier temporary content host.disk)
    (published : publish segment path temporary readPlan promised moved host = (outcome, later)) :
    LeftOr path earlier later.disk (fun result =>
      result = .loaded moved readPlan.chunks.length readPlan.duplicates.length ∧
        Placed path earlier content later.disk) outcome := by
  unfold publish at published
  split at published
  · cases published
    exact drafted.grown
  · cases synced : host.disk.sync with
    | mk result disk =>
      have still := drafted.call synced
      rw [synced] at published
      cases result with
      | error error =>
        cases published
        exact still.grown
      | ok nothing =>
        cases persisted : disk.persist temporary path with
        | mk result last =>
          have placed := still.persist persisted
          simp only [persisted] at published
          cases result with
          | error error =>
            cases published
            exact ⟨inside, content, placed⟩
          | ok nothing =>
            cases published
            exact ⟨rfl, placed⟩

/-- What a load leaves when it has a plan: its draft is gone, or the failure keeps it, or it is the
file at the path. -/
theorem copy_cases {segment : Segment} {readPlan : ReadPlan} {promised : UInt64}
    {host later : Host π} {outcome : Except Failure LoadOutcome}
    (copied : copy config segment path readPlan promised host = (outcome, later)) :
    LeftOr path host.disk later.disk (fun result => ∃ disk pulls,
      let reading := pulled config.readBufferSize.toNat disk
        (Reading.ofChunks config readPlan.chunks host.client) pulls
      reading.download.phase = .exhausted ∧
        result = .loaded reading.handed.length readPlan.chunks.length readPlan.duplicates.length ∧
        Placed path host.disk reading.handed later.disk) outcome := by
  unfold copy at copied
  cases made : prepare path host.disk with
  | mk result disk =>
    have prepared := prepare_cases made
    rw [made] at copied
    cases result with
    | error failure =>
      cases copied
      exact prepared
    | ok temporary =>
      obtain ⟨inside, drafted⟩ := prepared
      let copying := beginCopying config readPlan temporary { host with disk }
      cases drained : Transfer.drain config.readBufferSize.toNat copying.source copying.sink with
      | mk ended last =>
        obtain ⟨written, full, well⟩ := drain_ends { host with disk } drafted drained
        change finish segment path temporary readPlan promised
          (Transfer.drain config.readBufferSize.toNat copying.source copying.sink).1
          (Transfer.drain config.readBufferSize.toNat copying.source copying.sink).2 = _ at copied
        rw [drained] at copied
        cases ended with
        | error error =>
          cases copied
          change LeftBy path host.disk (last.sink.disk.erase temporary) _
          rw [LeftBy, kept?_toFailure]
          exact full.grown
        | ok count =>
          obtain ⟨pulls, exhausted, rfl, rfl⟩ := well count rfl
          have draft : Drafted path host.disk temporary _ (hostAfter last).disk := full
          have published := publish_cases inside draft copied
          cases outcome with
          | error failure => exact published
          | ok result => exact ⟨disk, pulls, exhausted, published⟩

/-! ### All or nothing -/

variable {γ : Type} [ChunkCatalog γ]

omit [Peer π] in
theorem planOf_cases {rows : List Chunk} {segment : Segment} {host later : Host π}
    {outcome : Except Failure (ReadPlan × UInt64)}
    (planned : planOf rows segment host = (outcome, later)) :
    later.disk = host.disk ∧ later.client.network = host.client.network ∧
      match outcome with
      | .error failure => failure.kept? = none
      | .ok (readPlan, _) => (ReadPlan.resolve rows).outcome = .ok readPlan := by
  unfold planOf at planned
  dsimp only at planned
  split at planned
  · cases planned
    exact ⟨rfl, rfl, rfl⟩
  · rename_i resolved
    split at planned
    · cases planned
      exact ⟨rfl, rfl, rfl⟩
    · split at planned
      · cases planned
        exact ⟨rfl, rfl, rfl⟩
      · cases planned
        exact ⟨rfl, rfl, resolved⟩

omit [Peer π] in
/-- A plan is made of the rows that were fetched; making it changes no disk and says nothing to the
peer. -/
theorem plan_cases {catalog : γ} {segment : Segment} {host later : Host π}
    {outcome : Except Failure (ReadPlan × UInt64)}
    (planned : plan catalog segment host = (outcome, later)) :
    later.disk = host.disk ∧ later.client.network = host.client.network ∧
      match outcome with
      | .error failure => failure.kept? = none
      | .ok (readPlan, _) => ∃ rows, ChunkCatalog.fetch catalog segment = .ok rows ∧
          (ReadPlan.resolve rows).outcome = .ok readPlan := by
  unfold plan at planned
  cases fetched : ChunkCatalog.fetch catalog segment with
  | error error =>
    rw [fetched] at planned
    cases planned
    exact ⟨rfl, rfl, rfl⟩
  | ok rows =>
    rw [fetched] at planned
    obtain ⟨disk, network, told⟩ := planOf_cases planned
    refine ⟨disk, network, ?_⟩
    cases outcome with
    | error failure => exact told
    | ok answer => exact ⟨rows, rfl, told⟩

/-- A load leaves a file that is there alone.  Otherwise it fails with nothing new but directories
on the way and what its failure keeps, or it has placed all that its download handed out, which are
as many bytes as the plan's chunks are long. -/
theorem load_is_all_or_nothing (config : ClientConfig) (catalog : γ) (segment : Segment)
    (path : String) (host : Host π) :
    let (outcome, later) := load config catalog segment path host
    (host.disk.isPresent path = true → outcome = .ok .alreadyPresent ∧ later = host) ∧
    (host.disk.isPresent path = false →
      (∀ failure, outcome = .error failure →
        LeftBy path host.disk later.disk failure ∧
        Grown path host.disk (failure.letGo later.disk) ∧
        (host.disk.IsTree → host.disk.Climbs path →
          (failure.letGo later.disk).isPresent path = false ∧
          (failure.kept? ≠ some (host.disk.place path) → later.disk.isPresent path = false))) ∧
      ∀ result, outcome = .ok result → ∃ rows readPlan client disk pulls,
        ChunkCatalog.fetch catalog segment = .ok rows ∧
        (ReadPlan.resolve rows).outcome = .ok readPlan ∧
        client.network = host.client.network ∧
        let reading := pulled config.readBufferSize.toNat disk
          (Reading.ofChunks config readPlan.chunks client) pulls
        reading.download.phase = .exhausted ∧
          reading.handed.length = chunkSize readPlan.chunks ∧
          result = .loaded (chunkSize readPlan.chunks) readPlan.chunks.length
            readPlan.duplicates.length ∧
          Placed path host.disk reading.handed later.disk) := by
  cases loaded : load config catalog segment path host with
  | mk outcome later =>
    constructor
    · intro there
      rw [load, if_pos there] at loaded
      cases loaded
      exact ⟨rfl, rfl⟩
    · intro absent
      rw [load, absent] at loaded
      simp only [Bool.false_eq_true, if_false] at loaded
      cases planned : plan catalog segment host with
      | mk result ready =>
        obtain ⟨sameDisk, sameNetwork, told⟩ := plan_cases planned
        rw [planned] at loaded
        cases result with
        | error failure =>
          have none : failure.kept? = Option.none := told
          cases loaded
          constructor
          · intro other same
            cases same
            have left : LeftBy path host.disk later.disk failure := by
              rw [LeftBy, none, sameDisk]
              exact Grown.refl path host.disk
            exact ⟨left, left.letGo, left.absent absent⟩
          · intro result impossible
            cases impossible
        | ok answer =>
          obtain ⟨readPlan, promised⟩ := answer
          obtain ⟨rows, fetched, resolved⟩ := told
          have copied := copy_cases loaded
          rw [sameDisk] at copied
          constructor
          · intro failure same
            have left : LeftBy path host.disk later.disk failure := by
              rw [same] at copied
              exact copied
            exact ⟨left, left.letGo, left.absent absent⟩
          · intro result same
            rw [same] at copied
            obtain ⟨disk, pulls, ended, told, placed⟩ := copied
            have size := Download.length_handed_of_exhausted ended
            change (pulled _ disk (Reading.ofChunks config readPlan.chunks ready.client)
              pulls).handed.length = _ at size
            refine ⟨rows, readPlan, ready.client, disk, pulls, fetched, resolved, sameNetwork, ended,
              size, ?_, placed⟩
            rw [told, size]

def soleSegment : Segment := ⟨0, 1663, 5, "relation", 7, 0⟩

def impatient : ClientConfig := { ClientConfig.default with retryLimit := 1 }

def soleRow : Catalog := ⟨"/catalog", [⟨soleSegment, Download.frontChunk⟩]⟩

/-- A host whose peer cannot be reached, with a directory and a file. -/
def cutOff : Host Unreachable where
  client := ⟨⟨Unreachable.mk, []⟩, []⟩
  disk := { Disk.empty with nodes := [(["there"], .directory), (["x"], .file [7])] }

/-- The temporary file that is there as long as an outcome is. -/
def keptBy : Except Failure LoadOutcome → Option Location
  | .ok _ => none
  | .error failure => failure.kept?

/-- A path may lead upwards from a directory that is there, and through one that is made. -/
theorem failed_load_leaves_nothing_behind_made_directory :
    let path := "/there/../made/x"
    let (outcome, later) := load impatient soleRow soleSegment path cutOff
    cutOff.disk.IsTree ∧ cutOff.disk.Climbs path ∧ cutOff.disk.isPresent path = false ∧
      outcome.isOk = false ∧ keptBy outcome = none ∧ later.disk.isPresent "/made" = true ∧
      later.disk.isPresent path = false := by
  intro path
  have known := load_is_all_or_nothing impatient soleRow soleSegment path cutOff
  have tree : cutOff.disk.IsTree := Disk.isTree_of_nodes (by decide)
  have climbs : cutOff.disk.Climbs path := by decide +kernel
  have absent : cutOff.disk.isPresent path = false := by decide +kernel
  have made : (load impatient soleRow soleSegment path cutOff).1.isOk = false ∧
      keptBy (load impatient soleRow soleSegment path cutOff).1 = none ∧
      (load impatient soleRow soleSegment path cutOff).2.disk.isPresent "/made" =
        true := by
    decide +kernel
  cases loaded : load impatient soleRow soleSegment path cutOff with
  | mk outcome later =>
    rw [loaded] at known made
    obtain ⟨failed, free, directory⟩ := made
    refine ⟨tree, climbs, absent, failed, free, directory, ?_⟩
    cases outcome with
    | ok result => cases failed
    | error failure =>
      obtain ⟨_, _, still⟩ := (known.2 absent).1 failure rfl
      apply (still tree climbs).2
      change failure.kept? = none at free
      rw [free]
      exact (Option.some_ne_none _).symm

/-- Where a path leads upwards from a missing directory, that directory is made before the load
fails, and then the path leads to a file that was elsewhere before.  Where a path ends with a slash,
no file can have that name, and the failure keeps the temporary file in the directory. -/
theorem failed_loads_leave_files :
    (let path := "/missing/../x"
    let (outcome, later) := load impatient soleRow soleSegment path cutOff
    cutOff.disk.isPresent path = false ∧ outcome.isOk = false ∧
      later.disk.isPresent path = true) ∧
    let noRows : Catalog := ⟨"/catalog", []⟩
    let (outcome, later) := load impatient noRows soleSegment "/there/z/" cutOff
    keptBy outcome = some ["there", ".tmp"] ∧
      later.disk.node? ["there", ".tmp"] = some (.file []) := by
  decide +kernel

end Load

end SegmentOffload
