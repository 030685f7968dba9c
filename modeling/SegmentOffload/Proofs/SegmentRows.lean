import Mathlib.Algebra.GroupWithZero.Nat
import SegmentOffload.Load
import SegmentOffload.Offload
import SegmentOffload.Proofs.DownloadAccounts
import SegmentOffload.Proofs.PlanResolution

/-!
Rows of one segment that follow each other.

Rows are consecutive when their counts go up by one and each starts where the one before it ended.
Everything the catalog derives from such rows is exact: the end of the offloaded bytes, the last
count, and the plan for reading them, which has no duplicates, no gaps and no conflicts.
-/

namespace SegmentOffload

open Download (chunkSize)

/-- Rows in the order of their counts, from a count and an offset on, none of them empty. -/
def Consecutive : (count offset : Nat) → List Chunk → Prop
  | _, _, [] => True
  | count, offset, chunk :: rest =>
    chunk.modificationCount.toNat = count ∧ chunk.startOffset.toNat = offset ∧
      0 < chunk.byteLength.toNat ∧
      Consecutive (count + 1) (offset + chunk.byteLength.toNat) rest

/-! ### Sums and maxima -/

theorem sumWordsFrom_of_fits {words : List UInt64} {total : UInt64}
    (fits : total.toNat + (words.map UInt64.toNat).sum < UInt64.size) :
    ∃ sum, sumWordsFrom total words = .ok sum ∧
      sum.toNat = total.toNat + (words.map UInt64.toNat).sum := by
  induction words generalizing total with
  | nil => exact ⟨total, rfl, rfl⟩
  | cons word rest ih =>
    rw [List.map_cons, List.sum_cons, ← Nat.add_assoc] at fits ⊢
    have exact : (total + word).toNat = total.toNat + word.toNat := by
      rw [UInt64.toNat_add]
      apply Nat.mod_eq_of_lt
      rw [UInt64.size] at fits
      omega
    have added : addWords total word = .ok (total + word) := addWords_eq_ok_iff.mpr exact
    rw [← exact] at fits ⊢
    obtain ⟨sum, summed, same⟩ := ih fits
    refine ⟨sum, ?_, same⟩
    rw [sumWordsFrom, added]
    exact summed

theorem Download.chunkSize_append (earlier later : List Chunk) :
    chunkSize (earlier ++ later) = chunkSize earlier + chunkSize later := by
  induction earlier with
  | nil =>
    rw [List.nil_append, chunkSize, Nat.zero_add]
  | cons chunk rest ih =>
    rw [List.cons_append, chunkSize, chunkSize, ih, Nat.add_assoc]

theorem Download.chunkSize_eq_sum (rows : List Chunk) :
    chunkSize rows = ((rows.map Chunk.byteLength).map UInt64.toNat).sum := by
  induction rows with
  | nil => rfl
  | cons chunk rest ih =>
    rw [chunkSize, ih]
    rfl

/-- A first word that no later one falls short of does not count. -/
theorem Catalog.greatest?_cons {word : UInt64} {rest : List UInt64}
    (below : word ≤ (greatest? rest).getD word) (fallback : UInt64) :
    (greatest? (word :: rest)).getD fallback = (greatest? rest).getD word := by
  cases found : greatest? rest with
  | none =>
    simp only [greatest?, found]
    rfl
  | some other =>
    rw [found, Option.getD_some] at below
    simp only [greatest?, found, Option.getD_some]
    exact if_pos below

namespace Consecutive

variable {count offset : Nat} {rows : List Chunk}

/-! ### One row at a time -/

theorem append_singleton {chunk : Chunk} (rowsInOrder : Consecutive count offset rows)
    (next : chunk.modificationCount.toNat = count + rows.length)
    (starts : chunk.startOffset.toNat = offset + chunkSize rows)
    (filled : 0 < chunk.byteLength.toNat) : Consecutive count offset (rows ++ [chunk]) := by
  induction rows generalizing count offset with
  | nil => exact ⟨next, starts, filled, trivial⟩
  | cons first rest ih =>
    rcases rowsInOrder with ⟨here, there, nonempty, others⟩
    refine ⟨here, there, nonempty, ?_⟩
    apply ih others
    · rw [next, List.length_cons]
      omega
    · rw [starts, chunkSize]
      omega

theorem modificationCount_mem (rowsInOrder : Consecutive count offset rows) {chunk : Chunk}
    (listed : chunk ∈ rows) :
    count ≤ chunk.modificationCount.toNat ∧
      chunk.modificationCount.toNat < count + rows.length := by
  induction rows generalizing count offset with
  | nil => cases listed
  | cons first rest ih =>
    rcases rowsInOrder with ⟨here, _, _, others⟩
    rw [List.length_cons]
    rcases List.mem_cons.mp listed with same | later
    · rw [same]
      omega
    · have bounds := ih others later
      omega

theorem range_mem (rowsInOrder : Consecutive count offset rows) {chunk : Chunk}
    (listed : chunk ∈ rows) :
    0 < chunk.byteLength.toNat ∧
      chunk.startOffset.toNat + chunk.byteLength.toNat ≤ offset + chunkSize rows := by
  induction rows generalizing count offset with
  | nil => cases listed
  | cons first rest ih =>
    rcases rowsInOrder with ⟨_, there, filled, others⟩
    rw [chunkSize]
    rcases List.mem_cons.mp listed with same | later
    · rw [same]
      refine ⟨filled, ?_⟩
      omega
    · rcases ih others later with ⟨nonempty, fits⟩
      refine ⟨nonempty, ?_⟩
      omega

/-! ### What the catalog derives -/

theorem mapM_endOffset (rowsInOrder : Consecutive count offset rows)
    (fits : offset + chunkSize rows < UInt64.size) :
    ∃ ends, rows.mapM Chunk.endOffset = .ok ends ∧
      ∀ start : UInt64, start.toNat = offset →
        ((Catalog.greatest? ends).getD start).toNat = offset + chunkSize rows := by
  induction rows generalizing count offset with
  | nil =>
    refine ⟨[], rfl, ?_⟩
    intro start same
    exact same
  | cons chunk rest ih =>
    rcases rowsInOrder with ⟨_, starts, _, others⟩
    rw [chunkSize, ← Nat.add_assoc] at fits ⊢
    rcases ih others fits with ⟨ends, mapped, greatest⟩
    have last : chunk.endOffset = .ok (UInt64.ofNat (offset + chunk.byteLength.toNat)) := by
      apply addWords_eq_ok_iff.mpr
      rw [UInt64.toNat_ofNat_of_lt' (by omega), starts]
    refine ⟨UInt64.ofNat (offset + chunk.byteLength.toNat) :: ends, ?_, ?_⟩
    · rw [List.mapM_cons, last, mapped]
      rfl
    · intro start _
      have base : (UInt64.ofNat (offset + chunk.byteLength.toNat)).toNat =
          offset + chunk.byteLength.toNat := UInt64.toNat_ofNat_of_lt' (by omega)
      have further := greatest _ base
      rw [Catalog.greatest?_cons]
      · exact further
      · rw [UInt64.le_iff_toNat_le, further, base]
        omega

theorem greatest?_modificationCount (rowsInOrder : Consecutive count offset rows) (before : UInt64)
    (next : before.toNat + 1 = count) :
    ((Catalog.greatest? (rows.map Chunk.modificationCount)).getD before).toNat =
      before.toNat + rows.length := by
  induction rows generalizing count offset before with
  | nil => rfl
  | cons chunk rest ih =>
    rcases rowsInOrder with ⟨here, _, _, others⟩
    have further := ih others chunk.modificationCount (by rw [here])
    rw [List.map_cons, List.length_cons, Catalog.greatest?_cons]
    · rw [further]
      omega
    · rw [UInt64.le_iff_toNat_le, further]
      omega

end Consecutive

theorem Catalog.offloadedEnd_of_consecutive {catalog : Catalog} {segment : Segment}
    (rowsInOrder : Consecutive 1 0 (catalog.chunksOf segment))
    (fits : chunkSize (catalog.chunksOf segment) < UInt64.size) :
    ∃ reached, catalog.offloadedEnd segment = .ok reached ∧
      reached.toNat = chunkSize (catalog.chunksOf segment) := by
  rcases rowsInOrder.mapM_endOffset (by omega) with ⟨ends, mapped, greatest⟩
  refine ⟨(greatest? ends).getD 0, ?_, ?_⟩
  · rw [offloadedEnd, mapped]
  · rw [greatest 0 rfl, Nat.zero_add]

/-- After consecutive rows the next chunk starts where they end and has the count that follows. -/
theorem Offload.nextChunk_of_consecutive {catalog : Catalog} {segment : Segment}
    (rowsInOrder : Consecutive 1 0 (catalog.chunksOf segment))
    (fits : chunkSize (catalog.chunksOf segment) < UInt64.size)
    {alreadyOffloaded modificationCount : UInt64}
    (next : nextChunk catalog segment = .ok (alreadyOffloaded, modificationCount)) :
    alreadyOffloaded.toNat = chunkSize (catalog.chunksOf segment) ∧
      modificationCount.toNat = 1 + (catalog.chunksOf segment).length := by
  rcases Catalog.offloadedEnd_of_consecutive rowsInOrder fits with ⟨reached, ended, exact⟩
  have counted := rowsInOrder.greatest?_modificationCount 0 rfl
  rw [nextChunk, ended] at next
  cases added : addWords ((catalog.lastModificationCount segment).getD 0) 1 with
  | error overflow =>
    simp only [added, bind, Except.bind] at next
    cases next
  | ok word =>
    simp only [added, bind, Except.bind, pure, Except.pure] at next
    cases next
    constructor
    · exact exact
    · rw [addWords_eq_ok_iff.mp added, Catalog.lastModificationCount, counted, UInt64.toNat_zero,
        UInt64.toNat_one]
      omega

/-! ### Reading them back -/

namespace ReadPlan

variable {count offset : Nat} {rows : List Chunk}

theorem collapse_of_ascending {last : Option Chunk}
    (ascending : rows.Pairwise fun earlier later =>
      earlier.modificationCount < later.modificationCount)
    (above : ∀ kept, last = some kept → ∀ row ∈ rows,
      kept.modificationCount < row.modificationCount) :
    collapse last rows = ⟨.ok ⟨rows, []⟩, []⟩ := by
  induction rows generalizing last with
  | nil => rfl
  | cons row rest ih =>
    rcases List.pairwise_cons.mp ascending with ⟨first, others⟩
    have later : collapse (some row) rest = ⟨.ok ⟨rest, []⟩, []⟩ := by
      apply ih others
      intro kept found
      cases found
      exact first
    rw [collapse_fresh, later]
    · rfl
    · intro kept found same
      have less := above kept found row (List.mem_cons_self ..)
      rw [same] at less
      exact absurd less (UInt64.lt_irrefl _)

/-- Rows whose counts go up, none of them empty, are their own plan. -/
theorem resolve_of_ascending
    (ascending : rows.Pairwise fun earlier later =>
      earlier.modificationCount < later.modificationCount)
    (filled : ∀ row ∈ rows, row.byteLength ≠ 0) : resolve rows = ⟨.ok ⟨rows, []⟩, []⟩ := by
  have whole : (rows.filter fun row => !row.isEmpty) = rows := by
    apply List.filter_eq_self.mpr
    intro row listed
    rw [Chunk.isEmpty, Bool.not_eq_true', beq_eq_false_iff_ne]
    exact filled row listed
  have ordered : rows.Pairwise fun earlier later => precedes earlier later = true := by
    apply ascending.imp
    intro earlier later less
    rw [precedes, decide_eq_true less, Bool.true_or]
  rw [resolve, whole, List.mergeSort_of_pairwise ordered]
  apply collapse_of_ascending ascending
  intro kept impossible
  cases impossible

theorem ascending_of_consecutive (rowsInOrder : Consecutive count offset rows) :
    rows.Pairwise fun earlier later =>
      earlier.modificationCount < later.modificationCount := by
  induction rows generalizing count offset with
  | nil => exact List.Pairwise.nil
  | cons chunk rest ih =>
    rcases rowsInOrder with ⟨here, _, _, others⟩
    apply List.pairwise_cons.mpr
    constructor
    · intro later listed
      have bounds := others.modificationCount_mem listed
      rw [UInt64.lt_iff_toNat_lt]
      omega
    · exact ih others

theorem resolve_of_consecutive (rowsInOrder : Consecutive count offset rows) :
    resolve rows = ⟨.ok ⟨rows, []⟩, []⟩ := by
  apply resolve_of_ascending (ascending_of_consecutive rowsInOrder)
  intro row listed zero
  have positive := (rowsInOrder.range_mem listed).1
  rw [zero] at positive
  exact absurd positive (Nat.lt_irrefl 0)

theorem sumWordsFrom_byteLength (rows : List Chunk) (total : UInt64)
    (fits : total.toNat + chunkSize rows < UInt64.size) :
    ∃ sum, sumWordsFrom total (rows.map Chunk.byteLength) = .ok sum ∧
      sum.toNat = total.toNat + chunkSize rows := by
  rw [Download.chunkSize_eq_sum] at fits ⊢
  exact sumWordsFrom_of_fits fits

end ReadPlan

/-! ### Chunks without gaps -/

/-- Each chunk starts where the one before it ended, the first one at an offset. -/
def Adjoins : (offset : Nat) → List Chunk → Prop
  | _, [] => True
  | offset, chunk :: rest =>
    chunk.startOffset.toNat = offset ∧ Adjoins (offset + chunk.byteLength.toNat) rest

theorem Consecutive.adjoins {count offset : Nat} {rows : List Chunk}
    (rowsInOrder : Consecutive count offset rows) : Adjoins offset rows := by
  induction rows generalizing count offset with
  | nil => trivial
  | cons chunk rest ih =>
    obtain ⟨_, starts, _, others⟩ := rowsInOrder
    exact ⟨starts, ih others⟩

theorem Chunk.endOffset_eq_ok {chunk : Chunk}
    (fits : chunk.startOffset.toNat + chunk.byteLength.toNat < UInt64.size) :
    ∃ next, chunk.endOffset = .ok next ∧
      next.toNat = chunk.startOffset.toNat + chunk.byteLength.toNat := by
  have exact := UInt64.toNat_ofNat_of_lt' fits
  exact ⟨_, addWords_eq_ok_iff.mpr exact, exact⟩

theorem Load.gapsFrom_of_consecutive {count offset : Nat} {rows : List Chunk} (segment : Segment)
    (rowsInOrder : Consecutive count offset rows) (fits : offset + chunkSize rows < UInt64.size)
    {expected : UInt64} (same : expected.toNat = offset) :
    gapsFrom segment expected rows = (.ok (), []) := by
  induction rows generalizing count offset expected with
  | nil => rfl
  | cons chunk rest ih =>
    obtain ⟨_, starts, _, others⟩ := rowsInOrder
    rw [chunkSize, ← Nat.add_assoc] at fits
    have here : chunk.startOffset = expected := by
      apply UInt64.toNat_inj.mp
      rw [starts, same]
    obtain ⟨next, ended, exact⟩ := chunk.endOffset_eq_ok (by omega)
    rw [starts] at exact
    rw [gapsFrom, if_pos here, ended]
    simp only [ih others fits exact, List.append_nil]

/-- Objects whose fronts are the ranges of adjoining chunks hold one range together. -/
theorem promisedBytes_of_adjoins {objects : String → Bytes} {offset : Nat} {chunks : List Chunk}
    (adjoins : Adjoins offset chunks) {content : Bytes}
    (held : ∀ chunk ∈ chunks, (objects chunk.remotePath).take chunk.byteLength.toNat =
      (content.drop chunk.startOffset.toNat).take chunk.byteLength.toNat) :
    promisedBytes objects chunks = (content.drop offset).take (chunkSize chunks) := by
  induction chunks generalizing offset with
  | nil =>
    rw [promisedBytes_nil, chunkSize, List.take_zero]
  | cons chunk rest ih =>
    obtain ⟨starts, others⟩ := adjoins
    have here := held chunk (List.mem_cons_self ..)
    have later := ih others fun other listed => held other (List.mem_cons_of_mem _ listed)
    calc promisedBytes objects (chunk :: rest)
        = (objects chunk.remotePath).take chunk.byteLength.toNat ++
            promisedBytes objects rest := rfl
      _ = (content.drop offset).take chunk.byteLength.toNat ++
            (content.drop (offset + chunk.byteLength.toNat)).take (chunkSize rest) := by
          rw [here, starts, later]
      _ = (content.drop offset).take (chunkSize (chunk :: rest)) := by
          rw [chunkSize, List.take_add, List.drop_drop]

/-- Objects that hold the ranges of consecutive rows hold one range together. -/
theorem promisedBytes_of_consecutive {objects : String → Bytes} {count offset : Nat}
    {rows : List Chunk} (rowsInOrder : Consecutive count offset rows) {content : Bytes}
    (stored : ∀ chunk ∈ rows, objects chunk.remotePath =
      (content.drop chunk.startOffset.toNat).take chunk.byteLength.toNat) :
    promisedBytes objects rows = (content.drop offset).take (chunkSize rows) := by
  apply promisedBytes_of_adjoins rowsInOrder.adjoins
  intro chunk listed
  rw [stored chunk listed, List.take_take, Nat.min_self]

end SegmentOffload
