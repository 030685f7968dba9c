import SegmentOffload.Proofs.Delivery
import SegmentOffload.Proofs.OffloadEffect
import SegmentOffload.Proofs.SegmentRows

/-!
Catalogs that were empty once.

A new chunk is counted one above the greatest count that the rows of its segment have at that moment.
Rows may have been dropped before, so a count may come again, but never beside a row that still has
it: every row that stays was recorded with a smaller count than the rows of its segment that come
after it.  This holds whatever the proxy, the disk and the segment files do meanwhile, and it is all
that the plan for reading a segment and the paths of its chunks depend on.
-/

namespace SegmentOffload

variable {π : Type} [Peer π]

/-! ### Uploads that go well -/

namespace Upload

variable {upload later : Upload} {client after : Client π}

theorem start_eq_ok {disk : Disk} (started : upload.start disk client = (.ok (), later, after)) :
    ∃ session, later = { upload with phase := .opened session } := by
  unfold start at started
  split at started
  · rename_i session opened
    cases started
    refine ⟨session, ?_⟩
    rw [← opened]
  · split at started
    · cases started
      exact ⟨_, rfl⟩
    · cases started
  · cases started

theorem write_eq_ok {data : Bytes} {disk : Disk}
    (wrote : upload.write data disk client = (.ok (), later, after)) :
    ∃ session,
      later = { upload with phase := .opened session, written := upload.written + data.length } := by
  unfold write at wrote
  split at wrote
  · cases wrote
  · rename_i started
    obtain ⟨session, rfl⟩ := start_eq_ok started
    refine ⟨session, ?_⟩
    split at wrote
    · rename_i nothing
      cases wrote
      rw [List.isEmpty_iff.mp nothing]
      rfl
    · simp only [sendPiece] at wrote
      split at wrote
      · cases wrote
        rfl
      · cases wrote

theorem close_eq_ok (closed : upload.close client = (.ok (), later, after)) :
    later = { upload with phase := .closed } := by
  unfold close at closed
  split at closed
  · rename_i already
    cases closed
    rw [← already]
  · cases closed
    rfl
  · cases closed
  · split at closed
    · cases closed
      rfl
    · cases closed

end Upload

namespace Offload

variable {progress later : Progress π}

theorem sendRange_eq_ok {node : Node} {bufferSize offset remaining : Nat}
    (done : sendRange node bufferSize offset remaining progress = (.ok (), later)) :
    ∃ phase, later.upload =
      { progress.upload with phase, written := progress.upload.written + remaining } := by
  fun_induction sendRange node bufferSize offset remaining progress with
  | case1 offset progress =>
    cases done
    exact ⟨_, rfl⟩
  | case2 => cases done
  | case3 => cases done
  | case4 => cases done
  | case5 offset remaining progress owing first rest disk read data reading moved ran ih =>
    have limited : data.length ≤ min remaining bufferSize := (isRange_readAt read).1
    obtain ⟨result, wrote, answered, _⟩ := run_cases ran
    rw [answered.mp rfl] at wrote
    obtain ⟨session, written⟩ := Upload.write_eq_ok wrote
    obtain ⟨phase, same⟩ := ih done
    refine ⟨phase, ?_⟩
    have sum : progress.upload.written + data.length + (remaining - data.length) =
        progress.upload.written + remaining := by omega
    rw [same, written]
    dsimp only [reading]
    rw [sum]

theorem transfer_eq_ok {config : ClientConfig} {path : String} {node : Node} {offset length : Nat}
    (done : transfer config path node offset length progress = (.ok (), later)) :
    ∃ phase, later.upload =
      { progress.upload with phase, written := progress.upload.written + length } := by
  unfold transfer at done
  dsimp only at done
  split at done
  · cases done
  · rename_i begun begins
    split at done
    · cases done
    · rename_i moved sent
      split at done
      · cases done
      · rename_i last ends
        cases done
        obtain ⟨_, started, startedWell, _⟩ := run_cases begins
        obtain ⟨_, closed, closedWell, _⟩ := run_cases ends
        rw [startedWell.mp rfl] at started
        rw [closedWell.mp rfl] at closed
        obtain ⟨_, opened⟩ := Upload.start_eq_ok started
        obtain ⟨_, ranged⟩ := sendRange_eq_ok sent
        refine ⟨.closed, ?_⟩
        rw [Upload.close_eq_ok closed, ranged, opened]

/-- A chunk that was uploaded takes all bytes from where it starts up to the end that was named. -/
theorem offload_eq_ok {config : ClientConfig} {segment : Segment}
    {modificationCount logPosition logicalEnd alreadyOffloaded : UInt64} {path : String}
    {host after : Host π} {chunk : Chunk}
    (done : offload config segment modificationCount logPosition path logicalEnd alreadyOffloaded
      host = (.ok chunk, after)) :
    alreadyOffloaded ≤ logicalEnd ∧
      chunk = describedChunk config segment modificationCount logPosition alreadyOffloaded
        (logicalEnd.toNat - alreadyOffloaded.toNat) := by
  unfold offload at done
  split at done
  · cases done
  · split at done
    · cases done
    · split at done
      · cases done
      · rename_i past
        dsimp only at done
        split at done
        · cases done
        · rename_i moved
          cases done
          obtain ⟨phase, same⟩ := transfer_eq_ok moved
          refine ⟨UInt64.not_lt.mp past, ?_⟩
          rw [same, Upload.new, Nat.zero_add]
          rfl

/-- What an offload makes of the catalog, whoever answers: nothing, or one row more, for a chunk that
is not empty and has the count and the start that were due. -/
theorem offloadAndRecord_cases {config : ClientConfig} {catalog after : Catalog} {segment : Segment}
    {logPosition : UInt64} {path : String} {host later : Host π}
    {outcome : Except Failure (Option Chunk)}
    (done : offloadAndRecord config catalog segment logPosition path host =
      (outcome, after, later)) :
    after = catalog ∨ ∃ startOffset modificationCount length,
      nextChunk catalog segment = .ok (startOffset, modificationCount) ∧
        0 < length ∧ length < UInt64.size ∧
        after = { catalog with rows := catalog.rows ++ [⟨segment,
          describedChunk config segment modificationCount logPosition startOffset length⟩] } := by
  unfold offloadAndRecord at done
  split at done
  · cases done
    exact Or.inl rfl
  · rename_i startOffset modificationCount next
    split at done
    · cases done
      exact Or.inl rfl
    · rename_i node _
      dsimp only at done
      split at done
      · cases done
        exact Or.inl rfl
      · rename_i ahead
        split at done
        · cases done
          exact Or.inl rfl
        · rename_i uploaded
          obtain ⟨below, described⟩ := offload_eq_ok uploaded
          split at done
          · rename_i recorded
            cases done
            refine Or.inr ⟨startOffset, modificationCount,
              (UInt64.ofNat node.size).toNat - startOffset.toNat, next, ?_, ?_, ?_⟩
            · have apart : (UInt64.ofNat node.size).toNat ≠ startOffset.toNat :=
                fun same => ahead (UInt64.toNat_inj.mp same)
              rw [UInt64.le_iff_toNat_le] at below
              omega
            · exact Nat.lt_of_le_of_lt (Nat.sub_le _ _) (UInt64.toNat_lt_size _)
            · rw [← described]
              exact (Catalog.record_cases recorded).2.1 rfl
          · rename_i error _ _ recorded
            cases done
            exact Or.inl ((Catalog.record_cases recorded).2.2 error rfl)

end Offload

namespace Catalog

/-! ### Counts -/

theorem le_max_words (left right : UInt64) : left ≤ max left right ∧ right ≤ max left right := by
  by_cases order : left ≤ right
  · have same : max left right = right := if_pos order
    rw [same]
    exact ⟨order, UInt64.le_refl _⟩
  · have same : max left right = left := if_neg order
    rw [same]
    exact ⟨UInt64.le_refl _, (UInt64.le_total left right).resolve_left order⟩

theorem exists_greatest?_eq {words : List UInt64} {word : UInt64} (listed : word ∈ words) :
    ∃ most, greatest? words = some most ∧ word ≤ most := by
  induction words with
  | nil => cases listed
  | cons first rest ih =>
    rcases List.mem_cons.mp listed with same | later
    · rw [same, greatest?]
      split
      · exact ⟨first, rfl, UInt64.le_refl _⟩
      · rename_i other _
        exact ⟨max first other, rfl, (le_max_words first other).1⟩
    · obtain ⟨other, found, below⟩ := ih later
      refine ⟨max first other, ?_, UInt64.le_trans below (le_max_words first other).2⟩
      simp only [greatest?, found]

/-- The count of the next chunk is above that of every chunk the segment has. -/
theorem lt_of_nextChunk {catalog : Catalog} {segment : Segment}
    {startOffset modificationCount : UInt64}
    (next : Offload.nextChunk catalog segment = .ok (startOffset, modificationCount))
    {chunk : Chunk} (listed : chunk ∈ catalog.chunksOf segment) :
    chunk.modificationCount < modificationCount := by
  obtain ⟨most, greatest, below⟩ :=
    exists_greatest?_eq (List.mem_map_of_mem (f := Chunk.modificationCount) listed)
  unfold Offload.nextChunk at next
  cases ended : catalog.offloadedEnd segment with
  | error overflow =>
    rw [ended] at next
    cases next
  | ok reached =>
    cases added : addWords ((catalog.lastModificationCount segment).getD 0) 1 with
    | error overflow =>
      simp only [ended, added, bind, Except.bind] at next
      cases next
    | ok word =>
      simp only [ended, added, bind, Except.bind, pure, Except.pure] at next
      cases next
      have exact := addWords_eq_ok_iff.mp added
      rw [lastModificationCount, greatest, Option.getD_some, UInt64.toNat_one] at exact
      rw [UInt64.le_iff_toNat_le] at below
      rw [UInt64.lt_iff_toNat_lt]
      omega

/-! ### Rows in order -/

theorem mem_chunksOf_iff {catalog : Catalog} {segment : Segment} {chunk : Chunk} :
    chunk ∈ catalog.chunksOf segment ↔
      ∃ row ∈ catalog.rows, row.segment = segment ∧ row.chunk = chunk := by
  rw [chunksOf, List.mem_map]
  constructor
  · rintro ⟨row, kept, same⟩
    obtain ⟨present, here⟩ := List.mem_filter.mp kept
    exact ⟨row, present, of_decide_eq_true here, same⟩
  · rintro ⟨row, present, here, same⟩
    exact ⟨row, List.mem_filter.mpr ⟨present, decide_eq_true here⟩, same⟩

/-- Rows that one client recorded: of each segment the counts go up, no chunk is empty, and each
chunk lies where its segment, its count and its log position say. -/
structure Tidy (rows : List CatalogRow) : Prop where
  ascending : rows.Pairwise fun earlier later => earlier.segment = later.segment →
    earlier.chunk.modificationCount < later.chunk.modificationCount
  filled : ∀ row ∈ rows, row.chunk.byteLength ≠ 0
  named : ∀ row ∈ rows, row.chunk.remotePath =
    row.segment.chunkPath row.chunk.modificationCount row.chunk.logPosition

namespace Tidy

variable {rows : List CatalogRow}

theorem nil : Tidy [] where
  ascending := List.Pairwise.nil
  filled := List.forall_mem_nil _
  named := List.forall_mem_nil _

theorem filter (tidy : Tidy rows) (keep : CatalogRow → Bool) : Tidy (rows.filter keep) where
  ascending := tidy.ascending.filter keep
  filled := fun row listed => tidy.filled row (List.mem_of_mem_filter listed)
  named := fun row listed => tidy.named row (List.mem_of_mem_filter listed)

theorem append_singleton (tidy : Tidy rows) {row : CatalogRow}
    (above : ∀ earlier ∈ rows, earlier.segment = row.segment →
      earlier.chunk.modificationCount < row.chunk.modificationCount)
    (filled : row.chunk.byteLength ≠ 0)
    (named : row.chunk.remotePath =
      row.segment.chunkPath row.chunk.modificationCount row.chunk.logPosition) :
    Tidy (rows ++ [row]) where
  ascending := by
    apply List.pairwise_append.mpr
    refine ⟨tidy.ascending, List.pairwise_singleton _ _, ?_⟩
    intro earlier before later last
    rw [List.mem_singleton.mp last]
    exact above earlier before
  filled := List.forall_mem_append.mpr ⟨tidy.filled, List.forall_mem_singleton.mpr filled⟩
  named := List.forall_mem_append.mpr ⟨tidy.named, List.forall_mem_singleton.mpr named⟩

/-! ### What follows for readers -/

theorem ascending_chunksOf {catalog : Catalog} (tidy : Tidy catalog.rows) (segment : Segment) :
    (catalog.chunksOf segment).Pairwise fun earlier later =>
      earlier.modificationCount < later.modificationCount := by
  rw [chunksOf, List.pairwise_map, List.pairwise_filter]
  apply tidy.ascending.imp
  intro earlier later ascends here there
  exact ascends ((of_decide_eq_true here).trans (of_decide_eq_true there).symm)

/-- No two rows name one object, not even rows of different segments. -/
theorem nodup_remotePath (tidy : Tidy rows) :
    (rows.map fun row => row.chunk.remotePath).Nodup := by
  apply List.pairwise_map.mpr
  apply tidy.ascending.imp_of_mem
  intro earlier later before after ascends same
  rw [tidy.named earlier before, tidy.named later after] at same
  obtain ⟨sameSegment, sameCount, _⟩ := chunkPath_injective same
  have less := ascends sameSegment
  rw [sameCount] at less
  exact UInt64.lt_irrefl _ less

end Tidy

/-! ### One operation -/

theorem retain_cases {catalog after : Catalog} {keep : CatalogRow → Bool} {disk later : Disk}
    {outcome : Except ClientError Nat}
    (retained : catalog.retain keep disk = (outcome, after, later)) :
    after = catalog ∨ after = { catalog with rows := catalog.rows.filter keep } := by
  unfold retain replace at retained
  dsimp only at retained
  split at retained
  · cases retained
    exact Or.inl rfl
  · split at retained
    · rename_i replaced
      cases retained
      split at replaced
      · cases replaced
        exact Or.inr rfl
      · cases replaced
    · rename_i replaced
      cases retained
      split at replaced
      · cases replaced
      · cases replaced
        exact Or.inl rfl

theorem Tidy.retain {catalog : Catalog} (tidy : Tidy catalog.rows) (keep : CatalogRow → Bool)
    (disk : Disk) : Tidy (catalog.retain keep disk).2.1.rows := by
  cases retained : catalog.retain keep disk with
  | mk outcome rest =>
    rcases retain_cases retained with same | fewer
    · rw [same]
      exact tidy
    · rw [fewer]
      exact tidy.filter keep

theorem Tidy.offload {catalog : Catalog} (tidy : Tidy catalog.rows) (config : ClientConfig)
    (segment : Segment) (logPosition : UInt64) (path : String) (host : Host π) :
    Tidy (Offload.offloadAndRecord config catalog segment logPosition path host).2.1.rows := by
  cases done : Offload.offloadAndRecord config catalog segment logPosition path host with
  | mk outcome rest =>
    rcases Offload.offloadAndRecord_cases done with
      same | ⟨startOffset, modificationCount, length, next, positive, small, grown⟩
    · rw [same]
      exact tidy
    · rw [grown]
      apply tidy.append_singleton
      · intro earlier before sameSegment
        apply lt_of_nextChunk next
        exact mem_chunksOf_iff.mpr ⟨earlier, before, sameSegment, rfl⟩
      · intro zero
        have exact : (UInt64.ofNat length).toNat = length := UInt64.toNat_ofNat_of_lt' small
        change UInt64.ofNat length = 0 at zero
        rw [zero, UInt64.toNat_zero] at exact
        omega
      · rfl

/-! ### Any number of operations -/

/-- A catalog, and the host that it is used on. -/
structure Custody (π : Type) where
  catalog : Catalog
  host : Host π

inductive Event (π : Type) where
  /-- Files, connections, the proxy and all calls that lie ahead become whatever they like. -/
  | meanwhile (host : Host π)
  | offload (config : ClientConfig) (segment : Segment) (logPosition : UInt64) (path : String)
  | removeChunk (remotePath : String)
  | forget (segment : Segment)

namespace Custody

def start (path : String) (host : Host π) : Custody π where
  catalog := ⟨path, []⟩
  host

def step (custody : Custody π) : Event π → Custody π
  | .meanwhile host => { custody with host }
  | .offload config segment logPosition path =>
    let (_, catalog, host) := Offload.offloadAndRecord config custody.catalog segment logPosition
      path custody.host
    ⟨catalog, host⟩
  | .removeChunk remotePath =>
    let (_, catalog, disk) := custody.catalog.removeChunk remotePath custody.host.disk
    ⟨catalog, { custody.host with disk }⟩
  | .forget segment =>
    let (_, catalog, disk) := custody.catalog.forget segment custody.host.disk
    ⟨catalog, { custody.host with disk }⟩

def run (custody : Custody π) (events : List (Event π)) : Custody π :=
  events.foldl step custody

theorem tidy_step {custody : Custody π} (tidy : Tidy custody.catalog.rows) (event : Event π) :
    Tidy (custody.step event).catalog.rows := by
  cases event with
  | meanwhile host => exact tidy
  | offload config segment logPosition path =>
    exact tidy.offload config segment logPosition path custody.host
  | removeChunk remotePath => exact tidy.retain _ custody.host.disk
  | forget segment => exact tidy.retain _ custody.host.disk

theorem tidy_run {custody : Custody π} (tidy : Tidy custody.catalog.rows)
    (events : List (Event π)) : Tidy (custody.run events).catalog.rows := by
  induction events generalizing custody with
  | nil => exact tidy
  | cons event rest ih =>
    apply ih
    exact tidy_step tidy event

/-- A catalog that was empty once resolves without a duplicate or a conflict, whatever was offloaded,
removed and forgotten since, and however that went. -/
theorem catalogs_resolve_cleanly (path : String) (host : Host π) (events : List (Event π)) :
    let catalog := ((start path host).run events).catalog
    (∀ segment, let rows := catalog.chunksOf segment
      rows.Pairwise (fun earlier later => earlier.modificationCount < later.modificationCount) ∧
        (∀ chunk ∈ rows, chunk.byteLength ≠ 0) ∧
        ReadPlan.resolve rows = ⟨.ok ⟨rows, []⟩, []⟩) ∧
      (catalog.rows.map fun row => row.chunk.remotePath).Nodup := by
  intro catalog
  have tidy : Tidy catalog.rows := tidy_run Tidy.nil events
  refine ⟨?_, tidy.nodup_remotePath⟩
  intro segment rows
  have ascending := tidy.ascending_chunksOf segment
  have filled : ∀ chunk ∈ rows, chunk.byteLength ≠ 0 := by
    intro chunk listed
    obtain ⟨row, present, _, same⟩ := mem_chunksOf_iff.mp listed
    rw [← same]
    exact tidy.filled row present
  exact ⟨ascending, filled, ReadPlan.resolve_of_ascending ascending filled⟩

/-- When the only row of a segment is removed, the next one has its count again. -/
example :
    let segment : Segment := ⟨0, 1663, 5, "d41d8cd9", 16384, 0⟩
    let config := Download.socketConfig
    let disk := { Disk.empty with nodes := [(["s"], .socket), (["file"], .file [1, 2, 3])] }
    let events := [.offload config segment 0 "/file", .removeChunk (segment.chunkPath 1 0),
      .offload config segment 7 "/file"]
    ((start "/catalog" ⟨⟨⟨ObjectStore.empty, []⟩, []⟩, disk⟩).run events).catalog.rows =
      [⟨segment, Offload.describedChunk config segment 1 7 0 3⟩] := by
  decide +kernel

end Custody

end Catalog

end SegmentOffload
