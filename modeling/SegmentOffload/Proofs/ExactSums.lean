import SegmentOffload.Holdings
import SegmentOffload.Peer.Scripted
import SegmentOffload.Peer.Unreachable
import SegmentOffload.Proofs.CatalogAgreement
import SegmentOffload.Proofs.CatalogHistory
import SegmentOffload.Proofs.GapFreeLoads

/-!
Where sums stop.

Offsets, lengths and counts come from the catalog's file and sizes from the proxy, and nothing bounds
them before they are added up.  An operation stops over an addition exactly when the exact sum is no
word: the end of a chunk, the count after the last one, the bytes of a plan, the sizes of a listing.
Nothing else in offloading, loading and measuring stops, and a sum that is there is exact.
-/

namespace SegmentOffload

open Download (chunkSize)
open Load (EndsFit)
open Wire (ObjectMeta)

/-! ### Additions -/

section Additions

variable {left right total : UInt64} {words : List UInt64}

theorem addWords_isOk_iff :
    (addWords left right).isOk ↔ left.toNat + right.toNat < UInt64.size := by
  unfold addWords
  split <;> simp_all [Except.isOk, Except.toBool]

theorem isOk_iff_exists {ε α : Type} {outcome : Except ε α} :
    outcome.isOk ↔ ∃ value, outcome = .ok value := by
  cases outcome <;> simp [Except.isOk, Except.toBool]

theorem sumWordsFrom_eq_ok_iff {sum : UInt64} :
    sumWordsFrom total words = .ok sum ↔
      sum.toNat = total.toNat + (words.map UInt64.toNat).sum := by
  induction words generalizing total with
  | nil =>
    simp only [sumWordsFrom, Except.ok.injEq, List.map_nil, List.sum_nil, Nat.add_zero]
    rw [UInt64.toNat_inj]
    exact eq_comm
  | cons word rest ih =>
    rw [sumWordsFrom, List.map_cons, List.sum_cons, ← Nat.add_assoc]
    cases added : addWords total word with
    | ok extended =>
      rw [← addWords_eq_ok_iff.mp added]
      exact ih
    | error overflow =>
      have large : ¬ total.toNat + word.toNat < UInt64.size := by
        rw [← addWords_isOk_iff, added]
        simp [Except.isOk, Except.toBool]
      have bound := sum.toNat_lt_size
      simp only [reduceCtorEq, false_iff]
      omega

theorem sumWords_eq_ok_iff : sumWords words = .ok total ↔
    total.toNat = (words.map UInt64.toNat).sum := by
  rw [sumWords, sumWordsFrom_eq_ok_iff, UInt64.toNat_zero, Nat.zero_add]

theorem sumWords_isOk_iff :
    (sumWords words).isOk ↔ (words.map UInt64.toNat).sum < UInt64.size := by
  simp only [isOk_iff_exists, sumWords_eq_ok_iff]
  constructor
  · intro found
    obtain ⟨total, exact⟩ := found
    rw [← exact]
    exact total.toNat_lt_size
  · intro fits
    exact ⟨UInt64.ofNat _, UInt64.toNat_ofNat_of_lt' fits⟩

theorem mapM_isOk_iff {ε α β : Type} (step : α → Except ε β) (items : List α) :
    (items.mapM step).isOk ↔ ∀ item ∈ items, (step item).isOk := by
  induction items with
  | nil => simp [Except.isOk, Except.toBool, pure, Except.pure]
  | cons item rest ih =>
    rw [List.mapM_cons, List.forall_mem_cons, ← ih]
    cases step item <;> cases rest.mapM step <;>
      simp [Except.isOk, Except.toBool, bind, Except.bind, pure, Except.pure]

end Additions

theorem Chunk.endOffset_isOk_iff (chunk : Chunk) :
    chunk.endOffset.isOk ↔ chunk.startOffset.toNat + chunk.byteLength.toNat < UInt64.size :=
  addWords_isOk_iff

/-! ### What the catalog derives -/

namespace Catalog

/-- Every count of a chunk has a word after it. -/
def CountsFit (chunks : List Chunk) : Prop :=
  ∀ chunk ∈ chunks, chunk.modificationCount.toNat + 1 < UInt64.size

variable {catalog : Catalog} {segment : Segment}

theorem greatest?_mem {words : List UInt64} {most : UInt64} (found : greatest? words = some most) :
    most ∈ words := by
  induction words generalizing most with
  | nil => cases found
  | cons word rest ih =>
    rw [greatest?] at found
    split at found
    · cases found
      exact List.mem_cons_self
    · rename_i other there
      cases found
      by_cases order : word ≤ other
      · have same : max word other = other := if_pos order
        rw [same]
        exact List.mem_cons_of_mem _ (ih there)
      · have same : max word other = word := if_neg order
        rw [same]
        exact List.mem_cons_self

theorem offloadedEnd_isOk_iff :
    (catalog.offloadedEnd segment).isOk ↔ EndsFit (catalog.chunksOf segment) := by
  have ends := mapM_isOk_iff Chunk.endOffset (catalog.chunksOf segment)
  simp only [Chunk.endOffset_isOk_iff] at ends
  rw [EndsFit, ← ends, offloadedEnd]
  cases (catalog.chunksOf segment).mapM Chunk.endOffset <;> rfl

/-- The greatest count has a word after it exactly when all have. -/
theorem nextCount_isOk_iff :
    (addWords ((catalog.lastModificationCount segment).getD 0) 1).isOk ↔
      CountsFit (catalog.chunksOf segment) := by
  rw [addWords_isOk_iff, lastModificationCount, UInt64.toNat_one]
  constructor
  · intro fits chunk listed
    obtain ⟨most, greatest, below⟩ :=
      exists_greatest?_eq (List.mem_map_of_mem (f := Chunk.modificationCount) listed)
    rw [greatest, Option.getD_some] at fits
    rw [UInt64.le_iff_toNat_le] at below
    omega
  · intro fit
    cases greatest : greatest? ((catalog.chunksOf segment).map Chunk.modificationCount) with
    | none => decide
    | some most =>
      obtain ⟨chunk, listed, rfl⟩ := List.mem_map.mp (greatest?_mem greatest)
      exact fit chunk listed

end Catalog

theorem Offload.nextChunk_isOk_iff {catalog : Catalog} {segment : Segment} :
    (nextChunk catalog segment).isOk ↔
      EndsFit (catalog.chunksOf segment) ∧ Catalog.CountsFit (catalog.chunksOf segment) := by
  rw [← Catalog.offloadedEnd_isOk_iff, ← Catalog.nextCount_isOk_iff, nextChunk]
  cases catalog.offloadedEnd segment <;>
    cases addWords ((catalog.lastModificationCount segment).getD 0) 1 <;>
      simp [Except.isOk, Except.toBool, bind, Except.bind, pure, Except.pure]

/-! ### Outcomes without an overflow -/

def Failure.IsOverflow (failure : Failure) : Prop :=
  ∃ overflow, failure = .overflow overflow

/-- The arithmetic of an operation stopped, so that it has no result. -/
def Overflows {α : Type} (outcome : Except Failure α) : Prop :=
  ∃ overflow, outcome = .error (.overflow overflow)

section Outcomes

variable {α : Type}

@[simp] theorem overflows_error (failure : Failure) :
    Overflows (.error failure : Except Failure α) ↔ failure.IsOverflow := by
  simp [Overflows, Failure.IsOverflow]

@[simp] theorem not_overflows_ok (value : α) : ¬ Overflows (.ok value : Except Failure α) := by
  simp [Overflows]

@[simp] theorem Failure.isOverflow_overflow (overflow : Overflow) :
    (Failure.overflow overflow).IsOverflow :=
  ⟨overflow, rfl⟩

@[simp] theorem Failure.not_isOverflow_failed (remarks : List String) (cause : Cause) :
    ¬ (Failure.failed remarks cause).IsOverflow := by
  simp [IsOverflow]

@[simp] theorem Failure.isOverflow_remark (text : String) (failure : Failure) :
    (failure.remark text).IsOverflow ↔ failure.IsOverflow := by
  cases failure <;> simp [remark]

@[simp] theorem Failure.not_isOverflow_ofClient (error : ClientError) :
    ¬ (ofClient error).IsOverflow :=
  not_isOverflow_failed [] _

@[simp] theorem Failure.not_isOverflow_ofIo (error : IoError) : ¬ (ofIo error).IsOverflow :=
  not_isOverflow_failed [] _

@[simp] theorem Failure.not_isOverflow_stated (text : String) : ¬ (stated text).IsOverflow :=
  not_isOverflow_failed [] _

end Outcomes

namespace Offload

variable {π : Type} [Peer π]

omit [Peer π] in
theorem not_overflows_run (progress : Progress π)
    (step : Upload → Client π → Except ClientError Unit × Upload × Client π) :
    ¬ Overflows (progress.run step).1 := by
  cases called : step progress.upload progress.host.client with
  | mk outcome later =>
    rw [Progress.run, called]
    cases outcome <;> simp [Except.mapError]

theorem not_overflows_sendRange (node : Node) (bufferSize offset remaining : Nat)
    (progress : Progress π) : ¬ Overflows (sendRange node bufferSize offset remaining progress).1 := by
  fun_induction sendRange node bufferSize offset remaining progress with
  | case1 => simp
  | case2 => simp
  | case3 => simp
  | case4 offset remaining progress _ first rest disk read data given failure later written =>
    have fine := not_overflows_run given fun upload client => upload.write data disk client
    rwa [written] at fine
  | case5 _ _ _ _ _ _ _ _ _ _ _ _ ih => exact ih

theorem not_overflows_transfer (config : ClientConfig) (path : String) (node : Node)
    (offset length : Nat) (progress : Progress π) :
    ¬ Overflows (transfer config path node offset length progress).1 := by
  have started := not_overflows_run progress fun upload client =>
    upload.start progress.host.disk client
  unfold transfer
  dsimp only
  split
  · rename_i same
    rw [same] at started
    simpa using started
  · rename_i begun _
    have sent := not_overflows_sendRange node config.readBufferSize.toNat offset length begun
    split
    · rename_i same
      rw [same] at sent
      simpa using sent
    · rename_i filled _
      have closed := not_overflows_run filled Upload.close
      split
      · rename_i same
        rw [same] at closed
        simpa using closed
      · simp

theorem not_overflows_offload (config : ClientConfig) (segment : Segment)
    (modificationCount logPosition : UInt64) (path : String) (logicalEnd alreadyOffloaded : UInt64)
    (host : Host π) : ¬ Overflows (offload config segment modificationCount logPosition path
      logicalEnd alreadyOffloaded host).1 := by
  unfold offload
  split
  · simp
  · rename_i node _
    split
    · simp
    · split
      · simp
      · have moved := not_overflows_transfer config path node alreadyOffloaded.toNat
          (logicalEnd.toNat - alreadyOffloaded.toNat)
          ⟨Upload.new config segment modificationCount logPosition (UInt64.ofNat node.size), host⟩
        dsimp only
        split
        · rename_i same
          rw [same] at moved
          simpa using moved
        · simp

/-- An offload stops before anything else, or not at all. -/
theorem overflows_offloadAndRecord_iff (config : ClientConfig) (catalog : Catalog)
    (segment : Segment) (logPosition : UInt64) (path : String) (host : Host π) :
    Overflows (offloadAndRecord config catalog segment logPosition path host).1 ↔
      ¬ (nextChunk catalog segment).isOk := by
  unfold offloadAndRecord
  split
  · rename_i stopped
    simp [stopped, Except.isOk, Except.toBool]
  · rename_i alreadyOffloaded modificationCount next
    simp only [next, Except.isOk, Except.toBool, not_true_eq_false, iff_false]
    split
    · simp
    · rename_i node _
      have uploaded := not_overflows_offload config segment modificationCount logPosition path
        (UInt64.ofNat node.size) alreadyOffloaded host
      split
      · simp
      · split
        · rename_i same
          rw [same] at uploaded
          simpa using uploaded
        · split <;> simp

end Offload

namespace Load

variable {π : Type} [Peer π]

theorem gapsFrom_isOk_iff (segment : Segment) (expected : UInt64) (chunks : List Chunk) :
    (gapsFrom segment expected chunks).1.isOk ↔ EndsFit chunks := by
  induction chunks generalizing expected with
  | nil => simp [gapsFrom, EndsFit, Except.isOk, Except.toBool]
  | cons chunk rest ih =>
    rw [EndsFit, List.forall_mem_cons, ← chunk.endOffset_isOk_iff, gapsFrom]
    cases chunk.endOffset with
    | error overflow => simp [Except.isOk, Except.toBool]
    | ok next =>
      simp only [ih next]
      simp [Except.isOk, Except.toBool, EndsFit]

theorem gaps_isOk_iff (segment : Segment) (readPlan : ReadPlan) :
    (gaps segment readPlan).1.isOk ↔ EndsFit readPlan.chunks := by
  unfold gaps
  split
  · rename_i none
    simp [none, EndsFit, Except.isOk, Except.toBool]
  · rename_i first rest same
    rw [gapsFrom_isOk_iff, same]

theorem totalBytes_isOk_iff (readPlan : ReadPlan) :
    readPlan.totalBytes.isOk ↔ chunkSize readPlan.chunks < UInt64.size := by
  rw [ReadPlan.totalBytes, sumWords_isOk_iff, Download.chunkSize_eq_sum]

omit [Peer π] in
/-- A plan stops when its rows do not contradict each other, and an end or all their bytes are no
word. -/
theorem overflows_plan_iff (catalog : Catalog) (segment : Segment) (host : Host π) :
    Overflows (plan catalog segment host).1 ↔
      ∃ readPlan, (ReadPlan.resolve (catalog.chunksOf segment)).outcome = .ok readPlan ∧
        ¬ (EndsFit readPlan.chunks ∧ chunkSize readPlan.chunks < UInt64.size) := by
  rw [plan_eq]
  unfold planOf
  dsimp only
  split
  · rename_i contradicted
    simp [contradicted]
  · rename_i readPlan resolved
    simp only [resolved, Except.ok.injEq, exists_eq_left', ← gaps_isOk_iff segment readPlan,
      ← totalBytes_isOk_iff readPlan]
    split
    · rename_i stopped
      simp [stopped, Except.isOk, Except.toBool]
    · rename_i passed
      split
      · rename_i stopped
        simp [stopped, Except.isOk, Except.toBool]
      · rename_i summed
        simp [passed, summed, Except.isOk, Except.toBool]

omit [Peer π] in
theorem not_overflows_publish (segment : Segment) (path : String) (temporary : Location)
    (readPlan : ReadPlan) (promised : UInt64) (moved : Nat) (host : Host π) :
    ¬ Overflows (publish segment path temporary readPlan promised moved host).1 := by
  unfold publish
  split
  · simp
  · split
    · simp
    · split <;> simp

theorem not_overflows_finish (segment : Segment) (path : String) (temporary : Location)
    (readPlan : ReadPlan) (promised : UInt64) (outcome : Except TransferError Nat)
    (copying : Copying π) :
    ¬ Overflows (finish segment path temporary readPlan promised outcome copying).1 := by
  cases outcome with
  | ok moved =>
    exact not_overflows_publish segment path temporary readPlan promised moved (hostAfter copying)
  | error error => cases error <;> simp [finish, TransferError.toFailure]

theorem not_overflows_prepare (path : String) (disk : Disk) :
    ¬ Overflows (prepare path disk).1 := by
  unfold prepare
  dsimp only
  split
  · simp
  · split <;> simp

theorem not_overflows_copy (config : ClientConfig) (segment : Segment) (path : String)
    (readPlan : ReadPlan) (promised : UInt64) (host : Host π) :
    ¬ Overflows (copy config segment path readPlan promised host).1 := by
  have prepared := not_overflows_prepare path host.disk
  unfold copy
  split
  · rename_i same
    rw [same] at prepared
    simpa using prepared
  · rename_i temporary _ _
    exact not_overflows_finish segment path temporary readPlan promised _ _

/-- A load stops over its plan, or not at all. -/
theorem overflows_load_iff (config : ClientConfig) (catalog : Catalog) (segment : Segment)
    (path : String) (host : Host π) :
    Overflows (load config catalog segment path host).1 ↔
      host.disk.isPresent path = false ∧ Overflows (plan catalog segment host).1 := by
  unfold load
  split
  · rename_i there
    simp [there]
  · rename_i absent
    rw [Bool.not_eq_true] at absent
    split
    · rename_i planned
      simp [planned, absent]
    · rename_i readPlan promised later planned
      simp [planned, not_overflows_copy config segment path readPlan promised later]

end Load

namespace Holdings

variable {π : Type} [Peer π]

theorem not_overflows_listChunks (config : ClientConfig) (segment : Segment) (disk : Disk)
    (client : Client π) : ¬ Overflows (listChunks config segment disk client).1 := by
  rw [listChunks, remarked]
  cases (Listing.list config segment.relationPath disk client).1 <;> simp [Except.mapError]

/-- The sizes of some entries, added up exactly. -/
def totalSize (entries : List ObjectMeta) : Nat :=
  (entries.map fun entry => entry.size.toNat).sum

theorem overflows_stat_iff (config : ClientConfig) (segment : Segment) (disk : Disk)
    (client : Client π) :
    Overflows (stat config segment disk client).1 ↔
      ∃ entries, (listChunks config segment disk client).1 = .ok entries ∧
        ¬ totalSize entries < UInt64.size := by
  have listed := not_overflows_listChunks config segment disk client
  unfold stat
  split
  · rename_i same
    rw [same] at listed
    simpa [same] using listed
  · rename_i entries _ same
    have summed : (sumWords (entries.map ObjectMeta.size)).isOk ↔ totalSize entries < UInt64.size := by
      rw [sumWords_isOk_iff, List.map_map]
      rfl
    simp only [same, Except.ok.injEq, exists_eq_left', ← summed]
    split
    · rename_i total
      simp [total, Except.isOk, Except.toBool]
    · rename_i stopped
      simp [stopped, Except.isOk, Except.toBool]

/-- What is measured is the listing, and its sizes are added up exactly. -/
theorem stat_eq_ok {config : ClientConfig} {segment : Segment} {disk : Disk} {client : Client π}
    {measured : Stat} (done : (stat config segment disk client).1 = .ok measured) :
    (listChunks config segment disk client).1 = .ok measured.chunks ∧
      measured.externalBytes.toNat = totalSize measured.chunks := by
  unfold stat at done
  split at done
  · cases done
  · rename_i same
    split at done
    · rename_i summed
      cases done
      rw [sumWords_eq_ok_iff, List.map_map] at summed
      exact ⟨congrArg Prod.fst same, summed⟩
    · cases done

end Holdings

/-! ### Where operations stop -/

/-- Offloading stops over the end of a chunk or the next count, loading over the end of a planned
chunk or the bytes of the plan, measuring over the listed sizes; and what is measured is exact. -/
theorem operations_stop_only_over_sums {π : Type} [Peer π] (config : ClientConfig)
    (catalog : Catalog) (segment : Segment) (logPosition : UInt64) (path : String)
    (host : Host π) :
    (Overflows (Offload.offloadAndRecord config catalog segment logPosition path host).1 ↔
      ¬ (EndsFit (catalog.chunksOf segment) ∧ Catalog.CountsFit (catalog.chunksOf segment))) ∧
    (Overflows (Load.load config catalog segment path host).1 ↔
      host.disk.isPresent path = false ∧
        ∃ readPlan, (ReadPlan.resolve (catalog.chunksOf segment)).outcome = .ok readPlan ∧
          ¬ (EndsFit readPlan.chunks ∧ chunkSize readPlan.chunks < UInt64.size)) ∧
    (Overflows (Holdings.stat config segment host.disk host.client).1 ↔
      ∃ entries, (Holdings.listChunks config segment host.disk host.client).1 = .ok entries ∧
        ¬ Holdings.totalSize entries < UInt64.size) ∧
    ∀ measured, (Holdings.stat config segment host.disk host.client).1 = .ok measured →
      (Holdings.listChunks config segment host.disk host.client).1 = .ok measured.chunks ∧
        measured.externalBytes.toNat = Holdings.totalSize measured.chunks := by
  constructor
  · rw [Offload.overflows_offloadAndRecord_iff, Offload.nextChunk_isOk_iff]
  · constructor
    · rw [Load.overflows_load_iff, Load.overflows_plan_iff]
    · constructor
      · exact Holdings.overflows_stat_iff config segment host.disk host.client
      · intro measured done
        exact Holdings.stat_eq_ok done

/-! ### Sums that are no words -/

def endlessRow : CatalogRow :=
  ⟨⟨0, 1663, 5, "relation", 7, 0⟩, ⟨1, 0, "a", 10, 18446744073709551615, false⟩⟩

/-- Two objects whose sizes make one byte more than a word can count. -/
def endlessListing : List Wire.Message :=
  [.objectMeta [⟨"a", 18446744073709551615⟩, ⟨"b", 1⟩], .readyForQuery]

/-- A disk with a catalog and a file, and a peer that answers one listing. -/
def endlessHost : Host ScriptedPeer where
  client := ⟨⟨.ofScript [⟨.frames 1, endlessListing.flatMap Wire.Message.encode, false⟩], []⟩, []⟩
  disk := { Disk.empty with nodes := [(["catalog"], .file (Catalog.written [endlessRow])),
    (["data"], .file [1, 2, 3]), (["s"], .socket)] }

/-- A catalog that can be opened makes offloading and loading stop, and a reply measuring. -/
theorem accepted_rows_and_listings_stop_operations :
    let config := { ClientConfig.default with socketPath := "/s" }
    let catalog : Catalog := ⟨"/catalog", [endlessRow]⟩
    Catalog.openFile endlessHost.disk "/catalog" = .ok catalog ∧
      (Offload.offloadAndRecord config catalog endlessRow.segment 0 "/data" endlessHost).1 =
        .error (.overflow .addition) ∧
      (Load.load config catalog endlessRow.segment "/copy" endlessHost).1 =
        .error (.overflow .addition) ∧
      (Holdings.stat config endlessRow.segment endlessHost.disk endlessHost.client).1 =
        .error (.overflow .addition) := by
  intro config catalog
  have found : endlessHost.disk.stat "/catalog" = .ok (.file (Catalog.written [endlessRow])) :=
    Disk.stat_eq_file_iff.mpr ⟨by decide, by decide, ["catalog"], by decide +kernel, rfl⟩
  constructor
  · exact Catalog.openFile_of_written found
  · decide +kernel

end SegmentOffload
