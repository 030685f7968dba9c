import Mathlib.Data.List.Pairwise
import Mathlib.Data.List.Sort
import SegmentOffload.Proofs.PlanResolution
import SegmentOffload.Proofs.SegmentRows

/-!
What a plan does not depend on.

Which counts are kept, and which count is told as contradictory, goes by the rows there are and not
by their order or number.  The order settles ties only: without two rows of one count and one log
position it settles nothing, and rows that are recorded again stand behind the rows that they
repeat, so that another row is never kept in their stead.
-/

namespace SegmentOffload

namespace ReadPlan

/-! ### First rows -/

theorem PlacedRow.Precedes.trans {left middle right : PlacedRow} (first : left.Precedes middle)
    (second : middle.Precedes right) : left.Precedes right := by
  simp only [Precedes, UInt64.lt_iff_toNat_lt, ← UInt64.toNat_inj] at first second ⊢
  omega

theorem PlacedRow.IsFirst.unique {rows : List Chunk} {selected : Chunk → Prop}
    {first other : PlacedRow} (leads : first.IsFirst rows selected)
    (again : other.IsFirst rows selected) : first = other := by
  rcases leads.2.2 other again.1 again.2.1 with same | earlier
  · exact same
  · rcases again.2.2 first leads.1 leads.2.1 with same | later
    · exact same.symm
    · exact absurd later earlier.asymm

/-- One set of placed rows is listed in one way. -/
theorem Lists.unique {rows others : List Chunk} {selected chosen : PlacedRow → Prop}
    {listed again : List Chunk} (lists : Lists rows selected listed)
    (relists : Lists others chosen again)
    (same : ∀ entry : PlacedRow,
      (entry.IsAmong rows ∧ selected entry) ↔ (entry.IsAmong others ∧ chosen entry)) :
    listed = again := by
  obtain ⟨placed, rfl, ordered, members⟩ := lists
  obtain ⟨replaced, rfl, reordered, remembers⟩ := relists
  have irreflexive : Std.Irrefl PlacedRow.Precedes := ⟨PlacedRow.not_precedes_self⟩
  have antisymmetric : Std.Antisymm PlacedRow.Precedes :=
    ⟨fun _ _ forward backward => absurd backward forward.asymm⟩
  have equal : placed = replaced := by
    apply ordered.eq_of_mem_iff reordered
    intro entry
    rw [members, remembers, same]
  rw [equal]

/-! ### What resolving comes to -/

/-- There is a plan, and then no two rows contradict each other, or the least contradiction is
told. -/
theorem resolve_cases (rows : List Chunk) :
    (∃ plan, (resolve rows).outcome = .ok plan ∧ IsPlanOf rows plan (resolve rows).journal ∧
        ∀ count, ¬ConflictAt rows count) ∨
      ∃ first second, (resolve rows).outcome = .error (.corruption first.row.modificationCount
        first.row.startOffset second.row.startOffset) ∧ IsLeastConflict rows first second := by
  obtain ⟨placed, sorted, ordered, among, ⟨kept, dropped, planned, parts⟩ |
    ⟨first, second, found, failed⟩⟩ := exists_resolve_eq rows
  · refine Or.inl ⟨_, planned, isPlanOf_of_collapsed sorted ordered among parts, ?_⟩
    intro count
    apply not_conflictAt_of_collapsed parts
    intro entry there _
    exact (among entry).mpr there
  · exact Or.inr ⟨first, second, failed, isLeastConflict_of_contradicted ordered among found⟩

/-! ### Rows in any order and number -/

section

variable {rows others : List Chunk}

theorem conflictAt_of_subset (inside : ∀ row ∈ rows, row ∈ others) {count : UInt64}
    (conflict : ConflictAt rows count) : ConflictAt others count := by
  obtain ⟨left, leftListed, right, rightListed, rest⟩ := conflict
  exact ⟨left, inside left leftListed, right, inside right rightListed, rest⟩

theorem conflictAt_congr (same : ∀ row, row ∈ rows ↔ row ∈ others) (count : UInt64) :
    ConflictAt rows count ↔ ConflictAt others count :=
  ⟨conflictAt_of_subset fun row => (same row).mp, conflictAt_of_subset fun row => (same row).mpr⟩

/-- The counts of a plan are those of the non-empty rows, each once and in order. -/
theorem IsPlanOf.counts_eq {plan again : ReadPlan} {journal more : List LogEntry}
    (plans : IsPlanOf rows plan journal) (replans : IsPlanOf others again more)
    (same : ∀ row, row ∈ rows ↔ row ∈ others) :
    plan.chunks.map Chunk.modificationCount = again.chunks.map Chunk.modificationCount := by
  have irreflexive : Std.Irrefl fun left right : UInt64 => left < right := ⟨UInt64.lt_irrefl⟩
  apply (List.pairwise_map.mpr plans.ascending).eq_of_mem_iff
    (List.pairwise_map.mpr replans.ascending)
  intro count
  simp only [List.mem_map, plans.counts, replans.counts, same]

theorem IsLeastConflict.count_eq {first second other next : PlacedRow}
    (least : IsLeastConflict rows first second) (again : IsLeastConflict others other next)
    (same : ∀ row, row ∈ rows ↔ row ∈ others) :
    first.row.modificationCount = other.row.modificationCount := by
  have notBefore : ¬first.row.modificationCount < other.row.modificationCount := by
    intro less
    exact again.least _ less ((conflictAt_congr same _).mp least.conflict)
  have notBehind : ¬other.row.modificationCount < first.row.modificationCount := by
    intro less
    exact least.least _ less ((conflictAt_congr same _).mpr again.conflict)
  exact UInt64.le_antisymm (UInt64.not_lt.mp notBehind) (UInt64.not_lt.mp notBefore)

end

/-- Two outcomes that keep the same counts in the same order, or tell the same count as
contradictory. -/
inductive SameCounts : Except ClientError ReadPlan → Except ClientError ReadPlan → Prop
  | planned {plan again : ReadPlan} :
    plan.chunks.map Chunk.modificationCount = again.chunks.map Chunk.modificationCount →
    SameCounts (.ok plan) (.ok again)
  | refused {count first second other next : UInt64} :
    SameCounts (.error (.corruption count first second)) (.error (.corruption count other next))

/-- The counts go by which rows there are. -/
theorem sameCounts_of_same_rows {rows others : List Chunk}
    (same : ∀ row, row ∈ rows ↔ row ∈ others) :
    SameCounts (resolve rows).outcome (resolve others).outcome := by
  rcases resolve_cases rows with ⟨plan, planned, plans, agreed⟩ | ⟨first, second, failed, least⟩
  · rcases resolve_cases others with ⟨again, replanned, replans, _⟩ | ⟨other, next, _, conflict⟩
    · rw [planned, replanned]
      exact .planned (plans.counts_eq replans same)
    · exact absurd ((conflictAt_congr same _).mpr conflict.conflict) (agreed _)
  · rcases resolve_cases others with ⟨again, _, _, agreed⟩ | ⟨other, next, refailed, conflict⟩
    · exact absurd ((conflictAt_congr same _).mp least.conflict) (agreed _)
    · rw [failed, refailed, least.count_eq conflict same]
      exact .refused

/-! ### Rows that the order tells apart -/

def SharesKey (left right : Chunk) : Prop :=
  left.modificationCount = right.modificationCount ∧ left.logPosition = right.logPosition

/-- No two entries share modification count and log position. -/
def DistinctKeys (rows : List Chunk) : Prop :=
  rows.Pairwise fun left right => ¬SharesKey left right

theorem sharesKey_of_precedes {left right : Chunk} (forward : precedes left right = true)
    (backward : precedes right left = true) : SharesKey left right := by
  simp only [SharesKey, precedes_iff, UInt64.lt_iff_toNat_lt, UInt64.le_iff_toNat_le,
    ← UInt64.toNat_inj] at forward backward ⊢
  omega

/-- Rows with keys of their own are sorted in one way. -/
theorem mergeSort_eq_of_perm {rows others : List Chunk} (same : rows.Perm others)
    (distinct : DistinctKeys rows) : rows.mergeSort precedes = others.mergeSort precedes := by
  have sorted (items : List Chunk) :
      (items.mergeSort precedes).Pairwise fun left right => precedes left right = true :=
    List.pairwise_mergeSort precedes_trans precedes_total items
  have shuffled : (rows.mergeSort precedes).Perm (others.mergeSort precedes) :=
    (List.mergeSort_perm rows precedes).trans
      (same.trans (List.mergeSort_perm others precedes).symm)
  refine shuffled.eq_of_pairwise ?_ (sorted rows) (sorted others)
  intro left right leftListed rightListed forward backward
  rw [List.mem_mergeSort] at leftListed rightListed
  have symmetric : Std.Symm fun left right => ¬SharesKey left right :=
    ⟨fun _ _ unlike alike => unlike ⟨alike.1.symm, alike.2.symm⟩⟩
  by_contra apart
  exact distinct.forall leftListed (same.mem_iff.mpr rightListed) apart
    (sharesKey_of_precedes forward backward)

theorem resolve_eq_of_perm {rows others : List Chunk} (same : rows.Perm others)
    (distinct : DistinctKeys (rows.filter fun row => !row.isEmpty)) :
    resolve rows = resolve others := by
  rw [resolve, resolve, mergeSort_eq_of_perm (same.filter _) distinct]

/-! ### Rows recorded again -/

section

variable {rows extra : List Chunk} {entry : PlacedRow}

theorem PlacedRow.IsAmong.append (among : entry.IsAmong rows) (extra : List Chunk) :
    entry.IsAmong (rows ++ extra) := by
  obtain ⟨there, filled⟩ := among
  refine ⟨?_, filled⟩
  rw [List.getElem?_append_left (List.getElem?_eq_some_iff.mp there).1]
  exact there

/-- A row of the longer list stands in the shorter one, or behind a row there that it repeats. -/
theorem PlacedRow.IsAmong.original (again : ∀ row ∈ extra, row ∈ rows)
    (among : entry.IsAmong (rows ++ extra)) :
    entry.IsAmong rows ∨
      ∃ original : PlacedRow, original.IsAmong rows ∧ original.row = entry.row ∧
        original.Precedes entry := by
  obtain ⟨there, filled⟩ := among
  by_cases inside : entry.place < rows.length
  · rw [List.getElem?_append_left inside] at there
    exact Or.inl ⟨there, filled⟩
  · rw [List.getElem?_append_right (Nat.not_lt.mp inside)] at there
    obtain ⟨place, here⟩ := List.mem_iff_getElem?.mp (again _ (List.mem_of_getElem? there))
    have before := (List.getElem?_eq_some_iff.mp here).1
    refine Or.inr ⟨⟨entry.row, place⟩, ⟨here, filled⟩, rfl, Or.inr ⟨rfl, Or.inr ⟨rfl, ?_⟩⟩⟩
    change place < entry.place
    omega

/-- Rows that are recorded again are never the first. -/
theorem PlacedRow.isFirst_append_iff (again : ∀ row ∈ extra, row ∈ rows)
    (selected : Chunk → Prop) :
    entry.IsFirst (rows ++ extra) selected ↔ entry.IsFirst rows selected := by
  constructor
  · rintro ⟨among, chosen, leads⟩
    have here : entry.IsAmong rows := by
      rcases among.original again with here | ⟨original, there, same, earlier⟩
      · exact here
      · rcases leads original (there.append extra) (same ▸ chosen) with itself | later
        · rw [itself]
          exact there
        · exact absurd later earlier.asymm
    refine ⟨here, chosen, ?_⟩
    intro other there
    exact leads other (there.append extra)
  · rintro ⟨among, chosen, leads⟩
    refine ⟨among.append extra, chosen, ?_⟩
    intro other there picked
    rcases there.original again with here | ⟨original, here, same, earlier⟩
    · exact leads other here picked
    · rcases leads original here (same ▸ picked) with itself | before
      · rw [itself]
        exact Or.inr earlier
      · exact Or.inr (before.trans earlier)

theorem mem_append_iff_of_again (again : ∀ row ∈ extra, row ∈ rows) (row : Chunk) :
    row ∈ rows ++ extra ↔ row ∈ rows := by
  rw [List.mem_append]
  exact ⟨fun listed => listed.elim id (again row), Or.inl⟩

theorem chunks_append_eq (again : ∀ row ∈ extra, row ∈ rows) {plan longer : ReadPlan}
    {journal more : List LogEntry} (plans : IsPlanOf rows plan journal)
    (replans : IsPlanOf (rows ++ extra) longer more) : longer.chunks = plan.chunks := by
  apply replans.chunks.unique plans.chunks
  intro entry
  constructor
  · rintro ⟨_, leads⟩
    have kept := (PlacedRow.isFirst_append_iff again _).mp leads
    exact ⟨kept.1, kept⟩
  · rintro ⟨among, leads⟩
    exact ⟨among.append extra, (PlacedRow.isFirst_append_iff again _).mpr leads⟩

theorem leastConflict_append_eq (again : ∀ row ∈ extra, row ∈ rows)
    {first second other next : PlacedRow} (least : IsLeastConflict rows first second)
    (conflict : IsLeastConflict (rows ++ extra) other next) :
    other = first ∧ next = second := by
  have count := conflict.count_eq least (mem_append_iff_of_again again)
  have kept := (PlacedRow.isFirst_append_iff again _).mp conflict.kept
  rw [count] at kept
  have same : other = first := kept.unique least.kept
  have differing := (PlacedRow.isFirst_append_iff again _).mp conflict.differing
  rw [same] at differing
  exact ⟨same, differing.unique least.differing⟩

/-- The chunks, or the contradiction, are those of the rows without the repetitions. -/
theorem resolve_append_of_again (again : ∀ row ∈ extra, row ∈ rows) :
    (resolve (rows ++ extra)).outcome.map ReadPlan.chunks =
      (resolve rows).outcome.map ReadPlan.chunks := by
  have members := mem_append_iff_of_again again
  rcases resolve_cases rows with ⟨plan, planned, plans, agreed⟩ | ⟨first, second, failed, least⟩
  · rcases resolve_cases (rows ++ extra) with
      ⟨longer, replanned, replans, _⟩ | ⟨other, next, _, conflict⟩
    · rw [planned, replanned, Except.map, Except.map, chunks_append_eq again plans replans]
    · exact absurd ((conflictAt_congr members _).mp conflict.conflict) (agreed _)
  · rcases resolve_cases (rows ++ extra) with
      ⟨longer, _, _, agreed⟩ | ⟨other, next, refailed, conflict⟩
    · exact absurd ((conflictAt_congr members _).mpr least.conflict) (agreed _)
    · obtain ⟨rfl, rfl⟩ := leastConflict_append_eq again least conflict
      rw [failed, refailed]

end

/-! ### Insensitivity -/

theorem resolve_chunks {rows : List Chunk} {plan : ReadPlan}
    (resolved : (resolve rows).outcome = .ok plan) :
    resolve plan.chunks = ⟨.ok ⟨plan.chunks, []⟩, []⟩ := by
  rcases resolve_cases rows with ⟨found, planned, plans, _⟩ | ⟨_, _, failed, _⟩
  · rw [resolved] at planned
    cases planned
    exact resolve_of_ascending plans.ascending plans.filled
  · rw [resolved] at failed
    cases failed

/-- Plans depend neither on the order of the rows nor on their repetition.  Rearranged rows come to
the same counts, kept or contradictory, and to the very same resolution when no two non-empty rows
share count and log position; rows that are recorded again behind the others change neither the
chunks nor the contradiction; and the chunks of a plan are their own plan. -/
theorem plans_insensitive_to_order_and_repetition (rows : List Chunk) :
    (∀ others, rows.Perm others →
      SameCounts (resolve rows).outcome (resolve others).outcome ∧
        (DistinctKeys (rows.filter fun row => !row.isEmpty) → resolve rows = resolve others)) ∧
    (∀ extra : List Chunk, (∀ row ∈ extra, row ∈ rows) →
      (resolve (rows ++ extra)).outcome.map ReadPlan.chunks =
        (resolve rows).outcome.map ReadPlan.chunks) ∧
    ∀ plan, (resolve rows).outcome = .ok plan →
      resolve plan.chunks = ⟨.ok ⟨plan.chunks, []⟩, []⟩ := by
  refine ⟨?_, ?_, ?_⟩
  · intro others same
    refine ⟨sameCounts_of_same_rows fun row => same.mem_iff, ?_⟩
    intro distinct
    exact resolve_eq_of_perm same distinct
  · intro extra again
    exact resolve_append_of_again again
  · intro plan resolved
    exact resolve_chunks resolved

def earlyRow : Chunk := ⟨4, 100, "early", 8, 64, false⟩

def lateRow : Chunk := ⟨4, 900, "late", 8, 64, false⟩

def frontRow : Chunk := ⟨2, 5, "front", 64, 0, false⟩

/-- Rearranged, recorded again and resolved again, two rows of one count keep the earlier one. -/
theorem plans_insensitive_to_lateRow_in_front :
    resolve [lateRow, frontRow, earlyRow] = resolve [frontRow, earlyRow, lateRow] ∧
      (resolve ([lateRow, frontRow, earlyRow] ++ [lateRow, earlyRow])).outcome.map
        ReadPlan.chunks = .ok [frontRow, earlyRow] ∧
      resolve [frontRow, earlyRow] = ⟨.ok ⟨[frontRow, earlyRow], []⟩, []⟩ := by
  have planned : (resolve [lateRow, frontRow, earlyRow]).outcome =
      .ok ⟨[frontRow, earlyRow], [lateRow]⟩ := by cbv
  obtain ⟨rearranged, recorded, resolved⟩ :=
    plans_insensitive_to_order_and_repetition [lateRow, frontRow, earlyRow]
  refine ⟨?_, ?_, ?_⟩
  · apply (rearranged [frontRow, earlyRow, lateRow] (by decide)).2
    unfold DistinctKeys SharesKey
    decide
  · rw [recorded [lateRow, earlyRow] (by decide), planned]
    rfl
  · exact resolved _ planned

end ReadPlan

end SegmentOffload
