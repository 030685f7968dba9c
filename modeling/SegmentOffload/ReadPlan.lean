import SegmentOffload.Chunk
import SegmentOffload.ClientError
import SegmentOffload.Journal

/-!
Which chunks to read, and in which order.

The catalog hands out rows in any order, with repetitions.  Empty chunks are left out, the others
are ordered by modification count and then by log position, equal ones as they came; of each
modification count the first chunk is kept and the others are duplicates.  Chunks of one
modification count that start at different offsets contradict each other, and then there is no plan
at all.
-/

namespace SegmentOffload

/-- The chunks to read in order, and those that repeat one of them. -/
structure ReadPlan where
  chunks : List Chunk
  duplicates : List Chunk
deriving DecidableEq, Repr

namespace ReadPlan

def empty : ReadPlan := ⟨[], []⟩

def totalBytes (plan : ReadPlan) : Except Overflow UInt64 :=
  sumWords (plan.chunks.map Chunk.byteLength)

def precedes (left right : Chunk) : Bool :=
  left.modificationCount < right.modificationCount ||
    (left.modificationCount == right.modificationCount && left.logPosition ≤ right.logPosition)

/-- What resolving rows comes to, and what it reports on the way. -/
structure Resolution where
  outcome : Except ClientError ReadPlan
  journal : List LogEntry

def duplicateEntry (kept dropped : Chunk) : LogEntry :=
  .warning "duplicate chunk row, keeping the first"
    [("modification_count", decimal dropped.modificationCount.toNat), ("kept", kept.remotePath),
      ("dropped", dropped.remotePath)]

def conflictEntry (kept other : Chunk) : LogEntry :=
  .error "conflicting chunk offsets"
    [("modification_count", decimal other.modificationCount.toNat),
      ("first_offset", decimal kept.startOffset.toNat),
      ("second_offset", decimal other.startOffset.toNat)]

/-- Collapse ordered rows after the chunk that was kept last. -/
def collapse (last : Option Chunk) : List Chunk → Resolution
  | [] => ⟨.ok empty, []⟩
  | row :: rest =>
    match last.filter fun kept => kept.modificationCount == row.modificationCount with
    | some kept =>
      if kept.startOffset = row.startOffset then
        let later := collapse (some kept) rest
        { outcome := later.outcome.map fun plan =>
            { plan with duplicates := row :: plan.duplicates }
          journal := duplicateEntry kept row :: later.journal }
      else
        { outcome := .error
            (.corruption row.modificationCount kept.startOffset row.startOffset)
          journal := [conflictEntry kept row] }
    | none =>
      let later := collapse (some row) rest
      { later with
        outcome := later.outcome.map fun plan => { plan with chunks := row :: plan.chunks } }

/-- The plan for the rows of one segment file. -/
def resolve (rows : List Chunk) : Resolution :=
  collapse none ((rows.filter fun row => !row.isEmpty).mergeSort precedes)

end ReadPlan

end SegmentOffload
