import Mathlib.Data.List.Forall2
import Mathlib.Data.List.Permutation
import SegmentOffload.Proofs.RowOrder

/-!
What a read plan means, and when there is none.

Over sorted rows one chunk is kept for each modification count, the first of its rows, and every
later row of that count is set against it: it is a duplicate when it starts where the kept chunk
starts, and contradicts it otherwise.  As the kept chunk stands for all its rows, any two rows of one
count that start at different offsets are found out, whatever the order that they come in.
-/

namespace SegmentOffload

namespace ReadPlan

/-! ### One row after the other -/

theorem collapse_fresh (last : Option Chunk) (row : Chunk) (rest : List Chunk)
    (fresh : ∀ kept, last = some kept → kept.modificationCount ≠ row.modificationCount) :
    collapse last (row :: rest) =
      { collapse (some row) rest with
        outcome := (collapse (some row) rest).outcome.map fun plan =>
          { plan with chunks := row :: plan.chunks } } := by
  have noneSame : (last.filter fun kept =>
      kept.modificationCount == row.modificationCount) = none := by
    rw [Option.filter_eq_none_iff]
    intro kept found same
    exact fresh kept found (beq_iff_eq.mp same)
  rw [collapse, noneSame]

theorem collapse_of_same {kept row : Chunk} (rest : List Chunk)
    (same : kept.modificationCount = row.modificationCount) :
    collapse (some kept) (row :: rest) =
      if kept.startOffset = row.startOffset then
        { outcome := (collapse (some kept) rest).outcome.map fun plan =>
            { plan with duplicates := row :: plan.duplicates }
          journal := duplicateEntry kept row :: (collapse (some kept) rest).journal }
      else
        { outcome := .error
            (.corruption row.modificationCount kept.startOffset row.startOffset)
          journal := [conflictEntry kept row] } := by
  have found : ((some kept).filter fun kept =>
      kept.modificationCount == row.modificationCount) = some kept := by
    rw [Option.filter_some, beq_iff_eq.mpr same]
    rfl
  rw [collapse, found]

/-- A row that only says again what an earlier one says. -/
structure Repeats (first later : PlacedRow) : Prop where
  earlier : first.Precedes later
  count : first.row.modificationCount = later.row.modificationCount
  offset : first.row.startOffset = later.row.startOffset

/-- Ordered rows parted into kept and dropped ones, behind a row that was kept before.  Each dropped
row repeats a kept one, and is reported with it. -/
structure Collapsed (last : Option PlacedRow) (placed kept dropped : List PlacedRow)
    (journal : List LogEntry) : Prop where
  parted : (kept ++ dropped).Perm placed
  keptInOrder : kept.Sublist placed
  droppedInOrder : dropped.Sublist placed
  ascending : (last.toList ++ kept).Pairwise fun left right =>
    left.row.modificationCount < right.row.modificationCount
  repeats : List.Forall₂ (fun later entry => ∃ first ∈ last.toList ++ kept,
    Repeats first later ∧ entry = duplicateEntry first.row later.row) dropped journal

namespace Collapsed

variable {last : Option PlacedRow} {first entry : PlacedRow} {placed kept dropped : List PlacedRow}
  {journal : List LogEntry}

theorem nil (last : Option PlacedRow) : Collapsed last [] [] [] [] where
  parted := List.Perm.refl _
  keptInOrder := List.Sublist.refl _
  droppedInOrder := List.Sublist.refl _
  ascending := by
    cases last with
    | none => exact List.Pairwise.nil
    | some first => exact List.pairwise_singleton _ _
  repeats := List.Forall₂.nil

theorem cons_repeat (again : Repeats first entry)
    (collapsed : Collapsed (some first) placed kept dropped journal) :
    Collapsed (some first) (entry :: placed) kept (entry :: dropped)
      (duplicateEntry first.row entry.row :: journal) where
  parted := List.perm_middle.trans (collapsed.parted.cons entry)
  keptInOrder := collapsed.keptInOrder.cons entry
  droppedInOrder := collapsed.droppedInOrder.cons_cons entry
  ascending := collapsed.ascending
  repeats := by
    refine List.Forall₂.cons ?_ collapsed.repeats
    exact ⟨first, List.mem_cons_self .., again, rfl⟩

theorem cons_fresh
    (above : ∀ first, last = some first →
      first.row.modificationCount < entry.row.modificationCount)
    (collapsed : Collapsed (some entry) placed kept dropped journal) :
    Collapsed last (entry :: placed) (entry :: kept) dropped journal where
  parted := collapsed.parted.cons entry
  keptInOrder := collapsed.keptInOrder.cons_cons entry
  droppedInOrder := collapsed.droppedInOrder.cons entry
  ascending := by
    have ascending := collapsed.ascending
    cases last with
    | none => exact ascending
    | some first =>
      refine List.Pairwise.cons ?_ ascending
      intro other listed
      have lower := above first rfl
      rcases List.mem_cons.mp listed with same | later
      · rw [same]
        exact lower
      · exact UInt64.lt_trans lower (List.rel_of_pairwise_cons ascending later)
  repeats := by
    apply collapsed.repeats.imp
    rintro later report ⟨first, listed, again, same⟩
    exact ⟨first, List.mem_append_right _ listed, again, same⟩

end Collapsed

/-- A row that starts elsewhere than the row kept for its count, the first such among ordered rows
behind a row that was kept before. -/
structure Contradicted (last : Option PlacedRow) (placed : List PlacedRow)
    (first second : PlacedRow) : Prop where
  before : ∃ earlier later kept dropped journal, placed = earlier ++ second :: later ∧
    Collapsed last earlier kept dropped journal ∧ first ∈ last.toList ++ kept
  count : first.row.modificationCount = second.row.modificationCount
  apart : first.row.startOffset ≠ second.row.startOffset

namespace Contradicted

variable {last : Option PlacedRow} {kept entry first second : PlacedRow} {placed : List PlacedRow}

theorem cons_repeat (again : Repeats kept entry)
    (contradicted : Contradicted (some kept) placed first second) :
    Contradicted (some kept) (entry :: placed) first second := by
  obtain ⟨⟨earlier, later, others, dropped, journal, rfl, parts, listed⟩, count, apart⟩ :=
    contradicted
  exact ⟨⟨entry :: earlier, later, others, entry :: dropped, _, rfl, parts.cons_repeat again,
    listed⟩, count, apart⟩

theorem cons_fresh
    (above : ∀ first, last = some first →
      first.row.modificationCount < entry.row.modificationCount)
    (contradicted : Contradicted (some entry) placed first second) :
    Contradicted last (entry :: placed) first second := by
  obtain ⟨⟨earlier, later, others, dropped, journal, rfl, parts, listed⟩, count, apart⟩ :=
    contradicted
  exact ⟨⟨entry :: earlier, later, entry :: others, dropped, journal, rfl, parts.cons_fresh above,
    List.mem_append_right _ listed⟩, count, apart⟩

end Contradicted

/-! ### All rows -/

variable {last : Option PlacedRow} {placed : List PlacedRow}

/-- The row kept last has the count of the next one, or a lower count. -/
theorem same_or_above {entry : PlacedRow} {rest : List PlacedRow}
    (ordered : (last.toList ++ entry :: rest).Pairwise PlacedRow.Precedes) :
    (∃ first, last = some first ∧ first.Precedes entry ∧
        first.row.modificationCount = entry.row.modificationCount) ∨
      ∀ first, last = some first → first.row.modificationCount < entry.row.modificationCount := by
  cases last with
  | none =>
    right
    intro first impossible
    cases impossible
  | some first =>
    have earlier : first.Precedes entry :=
      List.rel_of_pairwise_cons ordered (List.mem_cons_self ..)
    by_cases same : first.row.modificationCount = entry.row.modificationCount
    · exact Or.inl ⟨first, rfl, earlier, same⟩
    · right
      intro other found
      cases found
      exact earlier.count_lt same

/-- Ordered rows are parted into kept and dropped ones, or one of them contradicts a kept one. -/
theorem collapse_cases (ordered : (last.toList ++ placed).Pairwise PlacedRow.Precedes) :
    let resolution := collapse (last.map PlacedRow.row) (placed.map PlacedRow.row)
    (∃ kept dropped, resolution.outcome =
        .ok ⟨kept.map PlacedRow.row, dropped.map PlacedRow.row⟩ ∧
        Collapsed last placed kept dropped resolution.journal) ∨
      ∃ first second, Contradicted last placed first second ∧
        resolution.outcome = .error (.corruption first.row.modificationCount
          first.row.startOffset second.row.startOffset) := by
  intro resolution
  induction placed generalizing last with
  | nil => exact Or.inl ⟨[], [], rfl, Collapsed.nil last⟩
  | cons entry rest ih =>
    rcases same_or_above ordered with ⟨first, rfl, earlier, same⟩ | above
    · have step : resolution = _ := collapse_of_same (rest.map PlacedRow.row) same
      by_cases agree : first.row.startOffset = entry.row.startOffset
      · have again : Repeats first entry := ⟨earlier, same, agree⟩
        have behind : ((some first).toList ++ rest).Pairwise PlacedRow.Precedes :=
          ordered.sublist ((List.sublist_cons_self entry rest).cons_cons first)
        rw [step, if_pos agree]
        rcases ih behind with ⟨kept, dropped, planned, parts⟩ | ⟨one, other, found, failed⟩
        · rw [Option.map_some] at planned parts
          left
          refine ⟨kept, entry :: dropped, ?_, parts.cons_repeat again⟩
          rw [planned]
          rfl
        · rw [Option.map_some] at failed
          right
          refine ⟨one, other, found.cons_repeat again, ?_⟩
          rw [failed]
          rfl
      · rw [step, if_neg agree, ← same]
        right
        exact ⟨first, entry, ⟨⟨[], rest, [], [], [], rfl, Collapsed.nil _,
          List.mem_cons_self ..⟩, same, agree⟩, rfl⟩
    · have step : resolution = _ :=
        collapse_fresh (last.map PlacedRow.row) entry.row (rest.map PlacedRow.row) (by
          intro kept found same
          obtain ⟨first, here, rfl⟩ := Option.map_eq_some_iff.mp found
          exact UInt64.ne_of_lt (above first here) same)
      have behind : ((some entry).toList ++ rest).Pairwise PlacedRow.Precedes :=
        ordered.sublist (List.sublist_append_right ..)
      rw [step]
      rcases ih behind with ⟨kept, dropped, planned, parts⟩ | ⟨one, other, found, failed⟩
      · rw [Option.map_some] at planned parts
        left
        refine ⟨entry :: kept, dropped, ?_, parts.cons_fresh above⟩
        simp only [planned]
        rfl
      · rw [Option.map_some] at failed
        right
        refine ⟨one, other, found.cons_fresh above, ?_⟩
        simp only [failed]
        rfl

/-! ### What the parts are -/

namespace Collapsed

variable {first other : PlacedRow} {placed kept dropped : List PlacedRow} {journal : List LogEntry}

theorem eq_of_same_count (collapsed : Collapsed none placed kept dropped journal)
    (one : first ∈ kept) (another : other ∈ kept)
    (same : first.row.modificationCount = other.row.modificationCount) : first = other := by
  have distinct : (kept.map fun entry => entry.row.modificationCount).Nodup :=
    List.pairwise_map.mpr (collapsed.ascending.imp UInt64.ne_of_lt)
  exact List.inj_on_of_nodup_map distinct one another same

theorem exists_repeated (collapsed : Collapsed none placed kept dropped journal)
    (gone : other ∈ dropped) : ∃ first ∈ kept, Repeats first other := by
  obtain ⟨place, inside, rfl⟩ := List.getElem_of_mem gone
  obtain ⟨_, repeated⟩ := List.forall₂_iff_get.mp collapsed.repeats
  have reported : place < journal.length := by
    rw [← collapsed.repeats.length_eq]
    exact inside
  obtain ⟨first, listed, again, _⟩ := repeated place inside reported
  exact ⟨first, listed, again⟩

/-- Every row has a kept one that speaks for it. -/
theorem exists_kept (collapsed : Collapsed none placed kept dropped journal)
    (listed : other ∈ placed) :
    ∃ first ∈ kept, first.row.modificationCount = other.row.modificationCount ∧
      first.row.startOffset = other.row.startOffset ∧ (first = other ∨ first.Precedes other) := by
  rcases List.mem_append.mp (collapsed.parted.mem_iff.mpr listed) with stays | gone
  · exact ⟨other, stays, rfl, rfl, Or.inl rfl⟩
  · obtain ⟨first, stays, again⟩ := collapsed.exists_repeated gone
    exact ⟨first, stays, again.count, again.offset, Or.inr again.earlier⟩

theorem speaks_for (collapsed : Collapsed none placed kept dropped journal) (stays : first ∈ kept)
    (listed : other ∈ placed)
    (same : first.row.modificationCount = other.row.modificationCount) :
    first.row.startOffset = other.row.startOffset ∧ (first = other ∨ first.Precedes other) := by
  obtain ⟨speaker, speaks, count, offset, order⟩ := collapsed.exists_kept listed
  have one := collapsed.eq_of_same_count stays speaks (same.trans count.symm)
  rw [one]
  exact ⟨offset, order⟩

variable {rows : List Chunk}

theorem mem_kept_iff (collapsed : Collapsed none placed kept dropped journal)
    (among : ∀ entry : PlacedRow, entry ∈ placed ↔ entry.IsAmong rows) :
    first ∈ kept ↔ first.IsAmong rows ∧ first.IsKept rows := by
  constructor
  · intro stays
    have listed := (among first).mp (collapsed.keptInOrder.subset stays)
    refine ⟨listed, listed, rfl, ?_⟩
    intro other there same
    exact (collapsed.speaks_for stays ((among other).mpr there) same.symm).2
  · rintro ⟨listed, _, _, leads⟩
    obtain ⟨speaker, stays, count, _, order⟩ := collapsed.exists_kept ((among first).mpr listed)
    have there := (among speaker).mp (collapsed.keptInOrder.subset stays)
    rcases order with same | earlier
    · rw [← same]
      exact stays
    · rcases leads speaker there count with same | later
      · rw [same]
        exact stays
      · exact absurd later earlier.asymm

theorem mem_dropped_iff (collapsed : Collapsed none placed kept dropped journal)
    (among : ∀ entry : PlacedRow, entry ∈ placed ↔ entry.IsAmong rows) :
    other ∈ dropped ↔ other.IsAmong rows ∧ ¬other.IsKept rows := by
  constructor
  · intro gone
    have listed := (among other).mp (collapsed.droppedInOrder.subset gone)
    refine ⟨listed, ?_⟩
    intro leads
    have stays := (collapsed.mem_kept_iff among).mpr ⟨listed, leads⟩
    obtain ⟨first, speaks, again⟩ := collapsed.exists_repeated gone
    rw [collapsed.eq_of_same_count speaks stays again.count] at again
    exact other.not_precedes_self again.earlier
  · rintro ⟨listed, trails⟩
    rcases List.mem_append.mp (collapsed.parted.mem_iff.mpr ((among other).mpr listed)) with
      stays | gone
    · exact absurd ((collapsed.mem_kept_iff among).mp stays).2 trails
    · exact gone

end Collapsed

/-! ### The plan -/

/-- What a plan for rows says, and what is reported along with it. -/
structure IsPlanOf (rows : List Chunk) (plan : ReadPlan) (journal : List LogEntry) : Prop where
  ascending : plan.chunks.Pairwise fun left right =>
    left.modificationCount < right.modificationCount
  filled : ∀ chunk ∈ plan.chunks, chunk.byteLength ≠ 0
  counts : ∀ count, (∃ chunk ∈ plan.chunks, chunk.modificationCount = count) ↔
    ∃ row ∈ rows, row.byteLength ≠ 0 ∧ row.modificationCount = count
  chunks : Lists rows (PlacedRow.IsKept rows) plan.chunks
  duplicates : Lists rows (fun placed => ¬placed.IsKept rows) plan.duplicates
  parted : (plan.chunks ++ plan.duplicates).Perm (rows.filter fun row => !row.isEmpty)
  /-- One warning for each duplicate, in order. -/
  reported : List.Forall₂ (fun dropped entry => ∃ kept ∈ plan.chunks,
    kept.modificationCount = dropped.modificationCount ∧
      entry = ⟨.warning, "duplicate chunk row, keeping the first",
        [("modification_count", decimal dropped.modificationCount.toNat),
          ("kept", kept.remotePath), ("dropped", dropped.remotePath)]⟩) plan.duplicates journal

theorem exists_isAmong {rows : List Chunk} {row : Chunk} (listed : row ∈ rows)
    (filled : row.byteLength ≠ 0) : ∃ place, PlacedRow.IsAmong rows ⟨row, place⟩ := by
  obtain ⟨place, there⟩ := List.mem_iff_getElem?.mp listed
  exact ⟨place, there, filled⟩

theorem PlacedRow.IsAmong.mem {rows : List Chunk} {placed : PlacedRow}
    (among : placed.IsAmong rows) : placed.row ∈ rows :=
  List.mem_of_getElem? among.1

theorem isPlanOf_of_collapsed {rows : List Chunk} {placed kept dropped : List PlacedRow}
    {journal : List LogEntry}
    (sorted : (rows.filter fun row => !row.isEmpty).mergeSort precedes =
      placed.map PlacedRow.row)
    (ordered : placed.Pairwise PlacedRow.Precedes)
    (among : ∀ entry : PlacedRow, entry ∈ placed ↔ entry.IsAmong rows)
    (collapsed : Collapsed none placed kept dropped journal) :
    IsPlanOf rows ⟨kept.map PlacedRow.row, dropped.map PlacedRow.row⟩ journal where
  ascending := List.pairwise_map.mpr collapsed.ascending
  filled := by
    intro chunk listed
    obtain ⟨entry, stays, rfl⟩ := List.mem_map.mp listed
    exact ((collapsed.mem_kept_iff among).mp stays).1.2
  counts := by
    intro count
    constructor
    · rintro ⟨chunk, listed, same⟩
      obtain ⟨entry, stays, rfl⟩ := List.mem_map.mp listed
      have there := ((collapsed.mem_kept_iff among).mp stays).1
      exact ⟨entry.row, there.mem, there.2, same⟩
    · rintro ⟨row, listed, filled, same⟩
      obtain ⟨place, there⟩ := exists_isAmong listed filled
      obtain ⟨first, stays, count, _⟩ := collapsed.exists_kept ((among _).mpr there)
      exact ⟨first.row, List.mem_map_of_mem stays, count.trans same⟩
  chunks := by
    refine ⟨kept, rfl, ordered.sublist collapsed.keptInOrder, ?_⟩
    intro entry
    exact collapsed.mem_kept_iff among
  duplicates := by
    refine ⟨dropped, rfl, ordered.sublist collapsed.droppedInOrder, ?_⟩
    intro entry
    exact collapsed.mem_dropped_iff among
  parted := by
    rw [← List.map_append]
    have all := collapsed.parted.map PlacedRow.row
    rw [← sorted] at all
    exact all.trans (List.mergeSort_perm _ _)
  reported := by
    rw [List.forall₂_map_left_iff]
    apply collapsed.repeats.imp
    rintro gone entry ⟨first, stays, again, rfl⟩
    exact ⟨first.row, List.mem_map_of_mem stays, again.count, rfl⟩

/-- Resolving rows sorts them and collapses them, each at its place. -/
theorem exists_resolve_eq (rows : List Chunk) :
    ∃ placed : List PlacedRow,
      (rows.filter fun row => !row.isEmpty).mergeSort precedes = placed.map PlacedRow.row ∧
      placed.Pairwise PlacedRow.Precedes ∧
      (∀ entry : PlacedRow, entry ∈ placed ↔ entry.IsAmong rows) ∧
      ((∃ kept dropped, (resolve rows).outcome =
          .ok ⟨kept.map PlacedRow.row, dropped.map PlacedRow.row⟩ ∧
          Collapsed none placed kept dropped (resolve rows).journal) ∨
        ∃ first second, Contradicted none placed first second ∧
          (resolve rows).outcome = .error (.corruption first.row.modificationCount
            first.row.startOffset second.row.startOffset)) := by
  obtain ⟨placed, sorted, ordered, among⟩ := exists_placed_sorted rows
  have behind : ((none : Option PlacedRow).toList ++ placed).Pairwise PlacedRow.Precedes := ordered
  have cases := collapse_cases behind
  rw [Option.map_none, ← sorted] at cases
  exact ⟨placed, sorted, ordered, among, cases⟩

/-- A plan keeps of each modification count the row that comes first, lists the other rows as
duplicates in order, loses none, and reports each duplicate with the row that was kept for it. -/
theorem resolve_isPlanOf {rows : List Chunk} {plan : ReadPlan}
    (resolved : (resolve rows).outcome = .ok plan) : IsPlanOf rows plan (resolve rows).journal := by
  obtain ⟨placed, sorted, ordered, among, ⟨kept, dropped, planned, parts⟩ | ⟨_, _, _, failed⟩⟩ :=
    exists_resolve_eq rows
  · rw [planned] at resolved
    cases resolved
    exact isPlanOf_of_collapsed sorted ordered among parts
  · rw [failed] at resolved
    cases resolved

/-- One count of which the first row comes last and another is empty, behind a count that comes
later. -/
def repeatedRows : List Chunk :=
  [⟨4, 900, "late", 8, 64, false⟩, ⟨4, 0, "empty", 0, 0, false⟩, ⟨4, 100, "early", 8, 64, false⟩,
    ⟨4, 100, "again", 8, 64, false⟩, ⟨2, 5, "first", 64, 0, false⟩]

def repeatedPlan : ReadPlan where
  chunks := [⟨2, 5, "first", 64, 0, false⟩, ⟨4, 100, "early", 8, 64, false⟩]
  duplicates := [⟨4, 100, "again", 8, 64, false⟩, ⟨4, 900, "late", 8, 64, false⟩]

theorem resolve_isPlanOf_repeatedRows :
    (resolve repeatedRows).outcome = .ok repeatedPlan ∧
      IsPlanOf repeatedRows repeatedPlan (resolve repeatedRows).journal := by
  have resolved : (resolve repeatedRows).outcome = .ok repeatedPlan := by cbv
  exact ⟨resolved, resolve_isPlanOf resolved⟩

/-! ### Contradictions -/

/-- Two non-empty rows of a count that start at different offsets. -/
def ConflictAt (rows : List Chunk) (count : UInt64) : Prop :=
  ∃ left ∈ rows, ∃ right ∈ rows, left.byteLength ≠ 0 ∧ right.byteLength ≠ 0 ∧
    left.modificationCount = count ∧ right.modificationCount = count ∧
    left.startOffset ≠ right.startOffset

/-- What is said of a contradiction: the least count that has one, the row that would be kept for
it, and the first row of it that starts elsewhere. -/
structure IsLeastConflict (rows : List Chunk) (first second : PlacedRow) : Prop where
  conflict : ConflictAt rows first.row.modificationCount
  least : ∀ count < first.row.modificationCount, ¬ConflictAt rows count
  kept : first.IsKept rows
  differing : second.IsFirst rows fun row =>
    row.modificationCount = first.row.modificationCount ∧
      row.startOffset ≠ first.row.startOffset

theorem Collapsed.same_offset {left right : PlacedRow} {placed kept dropped : List PlacedRow}
    {journal : List LogEntry} (collapsed : Collapsed none placed kept dropped journal)
    (one : left ∈ placed) (another : right ∈ placed)
    (same : left.row.modificationCount = right.row.modificationCount) :
    left.row.startOffset = right.row.startOffset := by
  obtain ⟨speaker, stays, count, offset, _⟩ := collapsed.exists_kept one
  rw [← offset]
  exact (collapsed.speaks_for stays another (count.trans same)).1

/-- Rows that were parted agree on every count of which they hold all rows. -/
theorem not_conflictAt_of_collapsed {rows : List Chunk} {placed kept dropped : List PlacedRow}
    {journal : List LogEntry} (collapsed : Collapsed none placed kept dropped journal)
    {count : UInt64}
    (covered : ∀ entry : PlacedRow, entry.IsAmong rows → entry.row.modificationCount = count →
      entry ∈ placed) : ¬ConflictAt rows count := by
  rintro ⟨left, leftListed, right, rightListed, leftFilled, rightFilled, leftCount, rightCount,
    apart⟩
  obtain ⟨leftPlace, leftThere⟩ := exists_isAmong leftListed leftFilled
  obtain ⟨rightPlace, rightThere⟩ := exists_isAmong rightListed rightFilled
  exact apart (collapsed.same_offset (covered _ leftThere leftCount)
    (covered _ rightThere rightCount) (leftCount.trans rightCount.symm))

theorem isLeastConflict_of_contradicted {rows : List Chunk} {placed : List PlacedRow}
    {first second : PlacedRow} (ordered : placed.Pairwise PlacedRow.Precedes)
    (among : ∀ entry : PlacedRow, entry ∈ placed ↔ entry.IsAmong rows)
    (contradicted : Contradicted none placed first second) :
    IsLeastConflict rows first second := by
  obtain ⟨⟨earlier, later, kept, dropped, journal, rfl, parts, stays⟩, same, apart⟩ := contradicted
  change first ∈ kept at stays
  obtain ⟨_, orderedLater, across⟩ := List.pairwise_append.mp ordered
  have behind := (List.pairwise_cons.mp orderedLater).1
  have inside : first ∈ earlier := parts.keptInOrder.subset stays
  have firstAmong := (among first).mp (List.mem_append_left _ inside)
  have secondAmong := (among second).mp (List.mem_append_right _ (List.mem_cons_self ..))
  constructor
  · exact ⟨first.row, firstAmong.mem, second.row, secondAmong.mem, firstAmong.2, secondAmong.2, rfl,
      same.symm, apart⟩
  · intro count less
    -- rows of a lower count all stand among the earlier ones, which agree
    apply not_conflictAt_of_collapsed parts
    intro entry there counted
    rcases List.mem_append.mp ((among entry).mpr there) with here | late
    · exact here
    · rw [same, ← counted] at less
      rcases List.mem_cons.mp late with itself | follows
      · rw [itself] at less
        exact absurd less (UInt64.lt_irrefl _)
      · exact absurd less (UInt64.not_lt.mpr (behind entry follows).count_le)
  · refine ⟨firstAmong, rfl, ?_⟩
    intro other there counted
    rcases List.mem_append.mp ((among other).mpr there) with here | late
    · exact (parts.speaks_for stays here counted.symm).2
    · exact Or.inr (across first inside other late)
  · refine ⟨secondAmong, ⟨same.symm, Ne.symm apart⟩, ?_⟩
    intro other there selected
    rcases List.mem_append.mp ((among other).mpr there) with here | late
    · have agreed := (parts.speaks_for stays here selected.1.symm).1
      exact absurd agreed.symm selected.2
    · rcases List.mem_cons.mp late with itself | follows
      · exact Or.inl itself.symm
      · exact Or.inr (behind other follows)

/-- There is no plan exactly when two non-empty rows of one count start at different offsets; then
the least such count is told, with the offset of the row that would be kept for it and that of the
first row of it that starts elsewhere.  Empty rows have no say in it. -/
theorem resolve_detects_conflicts (rows : List Chunk) :
    ((∃ error, (resolve rows).outcome = .error error) ↔ ∃ count, ConflictAt rows count) ∧
      (∀ error, (resolve rows).outcome = .error error →
        ∃ first second, IsLeastConflict rows first second ∧
          error = .corruption first.row.modificationCount first.row.startOffset
            second.row.startOffset) ∧
      ∀ others : List Chunk, (others.filter fun row => !row.isEmpty) =
        (rows.filter fun row => !row.isEmpty) → resolve others = resolve rows := by
  refine ⟨?_, ?_, ?_⟩
  · obtain ⟨placed, _, ordered, among, ⟨kept, dropped, planned, parts⟩ |
      ⟨first, second, found, failed⟩⟩ := exists_resolve_eq rows
    · constructor
      · rintro ⟨error, impossible⟩
        rw [planned] at impossible
        cases impossible
      · rintro ⟨count, conflict⟩
        refine absurd conflict (not_conflictAt_of_collapsed parts ?_)
        intro entry there _
        exact (among entry).mpr there
    · constructor
      · intro _
        exact ⟨_, (isLeastConflict_of_contradicted ordered among found).conflict⟩
      · intro _
        exact ⟨_, failed⟩
  · intro error fails
    obtain ⟨placed, _, ordered, among, ⟨kept, dropped, planned, _⟩ |
      ⟨first, second, found, failed⟩⟩ := exists_resolve_eq rows
    · rw [planned] at fails
      cases fails
    · rw [failed] at fails
      cases fails
      exact ⟨first, second, isLeastConflict_of_contradicted ordered among found, rfl⟩
  · intro others same
    rw [resolve, resolve, same]

/-- Two counts with contradictions, of which the lower one has its kept row at the end. -/
def conflictingRows : List Chunk :=
  [⟨9, 0, "high", 1, 10, false⟩, ⟨9, 0, "higher", 1, 20, false⟩, ⟨5, 700, "late", 8, 300, false⟩,
    ⟨5, 600, "middle", 8, 400, false⟩, ⟨5, 600, "empty", 0, 500, false⟩,
    ⟨5, 100, "kept", 8, 300, false⟩]

theorem resolve_detects_conflictingRows :
    (resolve conflictingRows).outcome = .error (.corruption 5 300 400) ∧
      ∃ count, ConflictAt conflictingRows count := by
  have resolved : (resolve conflictingRows).outcome = .error (.corruption 5 300 400) := by
    cbv
  exact ⟨resolved, (resolve_detects_conflicts conflictingRows).1.mp ⟨_, resolved⟩⟩

end ReadPlan

end SegmentOffload
