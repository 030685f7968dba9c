import SegmentOffload.ReadPlan

/-!
The order in which rows are resolved.

Rows may repeat each other to the last field, so a row is known by the place that it is listed at.
Sorting is stable: of rows with one modification count and one log position, the one listed first
stays first.  Sorted rows are therefore the non-empty rows, each at its place, in one strict order.
-/

namespace SegmentOffload

namespace ReadPlan

/-! ### Sorting -/

section

variable {α : Type} {atMost : α → α → Bool} {before : α → α → Prop}

/-- Items that a sort does not tell apart keep their order. -/
theorem filter_mergeSort_of_alike {alike : α → Bool}
    (trans : ∀ left middle right, atMost left middle = true → atMost middle right = true →
      atMost left right = true)
    (total : ∀ left right, (atMost left right || atMost right left) = true) (items : List α)
    (same : ∀ left right, alike left = true → alike right = true → atMost left right = true) :
    (items.mergeSort atMost).filter alike = items.filter alike := by
  have level : (items.filter alike).Pairwise fun left right => atMost left right = true := by
    rw [List.pairwise_iff_forall_sublist]
    intro left right inside
    apply same
    · exact (List.mem_filter.mp (inside.subset (List.mem_cons_self ..))).2
    · exact (List.mem_filter.mp (inside.subset (List.mem_cons_of_mem _ (List.mem_cons_self ..)))).2
  have kept : (items.filter alike).Sublist (items.mergeSort atMost) :=
    List.sublist_mergeSort trans total level List.filter_sublist
  have inside : (items.filter alike).Sublist ((items.mergeSort atMost).filter alike) := by
    have filtered := kept.filter alike
    rw [List.filter_filter] at filtered
    simp only [Bool.and_self] at filtered
    exact filtered
  have size := ((List.mergeSort_perm items atMost).filter alike).length_eq
  exact (inside.eq_of_length size.symm).symm

/-- What stands in some order is sorted into the order that settles ties by it. -/
theorem pairwise_mergeSort_of_pairwise
    (trans : ∀ left middle right, atMost left middle = true → atMost middle right = true →
      atMost left right = true)
    (total : ∀ left right, (atMost left right || atMost right left) = true) {items : List α}
    (ordered : items.Pairwise before) :
    (items.mergeSort atMost).Pairwise fun left right =>
      atMost left right = true ∧ (atMost right left = true → before left right) := by
  have sorted := List.pairwise_mergeSort trans total items
  rw [List.pairwise_iff_forall_sublist] at sorted ⊢
  intro left right inside
  have forward := sorted inside
  refine ⟨forward, ?_⟩
  intro backward
  let alike : α → Bool := fun item => atMost left item && atMost item left
  have same : ∀ first second, alike first = true → alike second = true →
      atMost first second = true := by
    intro first second firstAlike secondAlike
    exact trans _ _ _ (Bool.and_eq_true_iff.mp firstAlike).2 (Bool.and_eq_true_iff.mp secondAlike).1
  have reflexive : atMost left left = true := trans _ _ _ forward backward
  have both : [left, right].filter alike = [left, right] := by
    simp only [alike, List.filter_cons, List.filter_nil, reflexive, forward, backward,
      Bool.and_self, if_true]
  have selected := inside.filter alike
  rw [both, filter_mergeSort_of_alike trans total items same] at selected
  exact List.pairwise_iff_forall_sublist.mp ordered (selected.trans List.filter_sublist)

end

/-! ### Rows at their places -/

/-- A row, and the place that it is listed at. -/
structure PlacedRow where
  row : Chunk
  place : Nat
deriving DecidableEq, Repr

namespace PlacedRow

/-- The row is listed at its place, and it is not empty. -/
def IsAmong (rows : List Chunk) (placed : PlacedRow) : Prop :=
  rows[placed.place]? = some placed.row ∧ placed.row.byteLength ≠ 0

/-- By modification count, then by log position, then by place. -/
def Precedes (left right : PlacedRow) : Prop :=
  left.row.modificationCount < right.row.modificationCount ∨
    left.row.modificationCount = right.row.modificationCount ∧
      (left.row.logPosition < right.row.logPosition ∨
        left.row.logPosition = right.row.logPosition ∧ left.place < right.place)

/-- The first of the non-empty rows that are selected. -/
def IsFirst (rows : List Chunk) (selected : Chunk → Prop) (placed : PlacedRow) : Prop :=
  placed.IsAmong rows ∧ selected placed.row ∧
    ∀ other : PlacedRow, other.IsAmong rows → selected other.row →
      placed = other ∨ placed.Precedes other

/-- The first of the non-empty rows of its modification count. -/
def IsKept (rows : List Chunk) (placed : PlacedRow) : Prop :=
  placed.IsFirst rows fun row => row.modificationCount = placed.row.modificationCount

theorem Precedes.count_le {left right : PlacedRow} (order : left.Precedes right) :
    left.row.modificationCount ≤ right.row.modificationCount := by
  rcases order with less | ⟨same, _⟩
  · exact UInt64.le_of_lt less
  · rw [same]
    exact UInt64.le_refl _

theorem Precedes.count_lt {left right : PlacedRow} (order : left.Precedes right)
    (apart : left.row.modificationCount ≠ right.row.modificationCount) :
    left.row.modificationCount < right.row.modificationCount :=
  order.resolve_right fun same => apart same.1

theorem not_precedes_self (placed : PlacedRow) : ¬placed.Precedes placed := by
  intro order
  rcases order with less | ⟨_, less | ⟨_, less⟩⟩
  · exact UInt64.lt_irrefl _ less
  · exact UInt64.lt_irrefl _ less
  · exact Nat.lt_irrefl _ less

theorem Precedes.asymm {left right : PlacedRow} (order : left.Precedes right) :
    ¬right.Precedes left := by
  intro back
  simp only [Precedes, UInt64.lt_iff_toNat_lt, ← UInt64.toNat_inj] at order back
  omega

end PlacedRow

/-- The selected rows are listed, and no others, in strict order. -/
def Lists (rows : List Chunk) (selected : PlacedRow → Prop) (listed : List Chunk) : Prop :=
  ∃ placed : List PlacedRow, listed = placed.map PlacedRow.row ∧
    placed.Pairwise PlacedRow.Precedes ∧
    ∀ entry : PlacedRow, entry ∈ placed ↔ entry.IsAmong rows ∧ selected entry

/-! ### Sorted rows -/

theorem precedes_iff {left right : Chunk} :
    precedes left right = true ↔ left.modificationCount < right.modificationCount ∨
      left.modificationCount = right.modificationCount ∧ left.logPosition ≤ right.logPosition := by
  simp only [precedes, Bool.or_eq_true, Bool.and_eq_true, decide_eq_true_eq, beq_iff_eq]

theorem precedes_trans (left middle right : Chunk) (first : precedes left middle = true)
    (second : precedes middle right = true) : precedes left right = true := by
  simp only [precedes_iff, UInt64.lt_iff_toNat_lt, UInt64.le_iff_toNat_le, ← UInt64.toNat_inj]
    at first second ⊢
  omega

theorem precedes_total (left right : Chunk) :
    (precedes left right || precedes right left) = true := by
  simp only [Bool.or_eq_true, precedes_iff, UInt64.lt_iff_toNat_lt, UInt64.le_iff_toNat_le,
    ← UInt64.toNat_inj]
  omega

/-- The non-empty rows as they are listed. -/
def filledRows (rows : List Chunk) : List PlacedRow :=
  (rows.mapIdx fun place row => ⟨row, place⟩).filter fun placed => !placed.row.isEmpty

theorem not_isEmpty_iff {row : Chunk} : (!row.isEmpty) = true ↔ row.byteLength ≠ 0 := by
  rw [Chunk.isEmpty, Bool.not_eq_true', beq_eq_false_iff_ne]

theorem mem_filledRows {rows : List Chunk} {placed : PlacedRow} :
    placed ∈ filledRows rows ↔ placed.IsAmong rows := by
  rw [filledRows, List.mem_filter, not_isEmpty_iff, List.mem_mapIdx, PlacedRow.IsAmong,
    List.getElem?_eq_some_iff]
  apply and_congr_left
  intro _
  constructor
  · rintro ⟨place, inside, rfl⟩
    exact ⟨inside, rfl⟩
  · rintro ⟨inside, same⟩
    exact ⟨placed.place, inside, by rw [same]⟩

theorem map_row_filledRows (rows : List Chunk) :
    (filledRows rows).map PlacedRow.row = rows.filter fun row => !row.isEmpty := by
  have listed : (rows.mapIdx fun place row => (⟨row, place⟩ : PlacedRow)).map PlacedRow.row =
      rows := by
    apply List.ext_getElem?
    intro place
    rw [List.getElem?_map, List.getElem?_mapIdx, Option.map_map]
    exact Option.map_id_apply
  calc (filledRows rows).map PlacedRow.row
      = ((rows.mapIdx fun place row => (⟨row, place⟩ : PlacedRow)).map PlacedRow.row).filter
          fun row => !row.isEmpty := by
        rw [filledRows, List.filter_map]
        rfl
    _ = rows.filter fun row => !row.isEmpty := by rw [listed]

theorem pairwise_place_filledRows (rows : List Chunk) :
    (filledRows rows).Pairwise fun left right => left.place < right.place := by
  apply List.Pairwise.filter
  rw [List.pairwise_iff_getElem]
  intro left right insideLeft insideRight less
  simp only [List.getElem_mapIdx]
  exact less

/-- The sorted rows are the non-empty ones, each at its place, in strict order. -/
theorem exists_placed_sorted (rows : List Chunk) :
    ∃ placed : List PlacedRow,
      (rows.filter fun row => !row.isEmpty).mergeSort precedes = placed.map PlacedRow.row ∧
      placed.Pairwise PlacedRow.Precedes ∧
      ∀ entry : PlacedRow, entry ∈ placed ↔ entry.IsAmong rows := by
  let order (left right : PlacedRow) : Bool := precedes left.row right.row
  have sorted : ((filledRows rows).mergeSort order).Pairwise fun left right =>
      order left right = true ∧ (order right left = true → left.place < right.place) :=
    pairwise_mergeSort_of_pairwise
      (fun left middle right => precedes_trans left.row middle.row right.row)
      (fun left right => precedes_total left.row right.row) (pairwise_place_filledRows rows)
  refine ⟨(filledRows rows).mergeSort order, ?_, ?_, ?_⟩
  · rw [← map_row_filledRows]
    exact (List.map_mergeSort (r := order) (f := PlacedRow.row) fun _ _ _ _ => rfl).symm
  · apply sorted.imp
    intro left right both
    obtain ⟨forward, settled⟩ := both
    rcases precedes_iff.mp forward with less | ⟨same, atMost⟩
    · exact Or.inl less
    · refine Or.inr ⟨same, ?_⟩
      by_cases level : left.row.logPosition = right.row.logPosition
      · refine Or.inr ⟨level, settled ?_⟩
        exact precedes_iff.mpr (Or.inr ⟨same.symm, by rw [level]; exact UInt64.le_refl _⟩)
      · exact Or.inl (UInt64.lt_of_le_of_ne atMost level)
  · intro entry
    rw [List.mem_mergeSort, mem_filledRows]

end ReadPlan

end SegmentOffload
