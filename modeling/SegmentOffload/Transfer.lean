import SegmentOffload.Failure
import SegmentOffload.Wire.Stream

/-!
Draining a source of bytes into a sink.

A source is pulled with a limit until it says that it has ended; each piece is written whole before
the next pull.  A finite source knows a bound on the pulls that are left, so draining it ends.
Nothing is pulled or written after the first failure.
-/

namespace SegmentOffload

inductive Pulled where
  | bytes (data : Bytes)
  | endOfStream
deriving DecidableEq, Repr

/-- Something that hands out bytes when pulled. -/
class Source (σ : Type) where
  /-- The next bytes, at most `capacity` many. -/
  pull : (capacity : Nat) → σ → Except ClientError Pulled × σ

/-- A source that cannot hand out bytes forever. -/
class FiniteSource (σ : Type) extends Source σ where
  /-- A bound on the pulls that can still give bytes. -/
  span : σ → Nat
  /-- A pull that gives bytes uses up some of the bound. -/
  span_lt : ∀ {capacity : Nat} {source later : σ} {data : Bytes}, 0 < capacity →
    pull capacity source = (.ok (.bytes data), later) → span later < span source

/-- Something that takes bytes. -/
class Sink (τ : Type) where
  /-- Take all bytes, or fail after some of them. -/
  write : Bytes → τ → Except IoError Unit × τ

/-- Why draining stopped before the end of the source. -/
inductive TransferError where
  | emptyBuffer
  | source (error : ClientError)
  | sink (error : IoError)
deriving DecidableEq, Repr

def TransferError.toFailure : TransferError → Failure
  | emptyBuffer => .stated "copy buffer must not be empty"
  | source error => .ofClient error
  | sink error => .ofIo error

structure Transfer (σ τ : Type) where
  source : σ
  sink : τ
  /-- The bytes moved so far. -/
  moved : Nat

namespace Transfer

inductive Step (σ τ : Type) where
  /-- A piece was moved. -/
  | more (transfer : Transfer σ τ)
  /-- The source has ended, or something failed. -/
  | finished (outcome : Except TransferError Nat) (transfer : Transfer σ τ)

def step {σ τ : Type} [Source σ] [Sink τ] (capacity : Nat) (transfer : Transfer σ τ) : Step σ τ :=
  match Source.pull capacity transfer.source with
  | (.error error, source) => .finished (.error (.source error)) { transfer with source }
  | (.ok .endOfStream, source) => .finished (.ok transfer.moved) { transfer with source }
  | (.ok (.bytes data), source) =>
    match Sink.write data transfer.sink with
    | (.ok (), sink) => .more { source, sink, moved := transfer.moved + data.length }
    | (.error error, sink) => .finished (.error (.sink error)) { transfer with source, sink }

variable {σ τ : Type} [FiniteSource σ] [Sink τ]

theorem span_lt_of_step_eq_more {capacity : Nat} {transfer later : Transfer σ τ}
    (positive : 0 < capacity) (moved : transfer.step capacity = .more later) :
    FiniteSource.span later.source < FiniteSource.span transfer.source := by
  simp only [step] at moved
  split at moved
  · cases moved
  · cases moved
  · rename_i data source pulled
    split at moved
    · cases moved
      exact FiniteSource.span_lt positive pulled
    · cases moved

def drainFrom (capacity : Nat) (positive : 0 < capacity) (transfer : Transfer σ τ) :
    Except TransferError Nat × Transfer σ τ :=
  match moved : transfer.step capacity with
  | .finished outcome last => (outcome, last)
  | .more later =>
    have := span_lt_of_step_eq_more positive moved
    drainFrom capacity positive later
termination_by FiniteSource.span transfer.source

/-- Move everything, in pieces of at most `capacity` bytes. -/
def drain (capacity : Nat) (source : σ) (sink : τ) : Except TransferError Nat × Transfer σ τ :=
  if positive : 0 < capacity then drainFrom capacity positive ⟨source, sink, 0⟩
  else (.error .emptyBuffer, ⟨source, sink, 0⟩)

theorem drainFrom_of_finished {capacity : Nat} (positive : 0 < capacity)
    {transfer last : Transfer σ τ} {outcome : Except TransferError Nat}
    (finished : transfer.step capacity = .finished outcome last) :
    transfer.drainFrom capacity positive = (outcome, last) := by
  unfold drainFrom
  split
  · rename_i ended
    rw [finished] at ended
    cases ended
    rfl
  · rename_i moved
    rw [finished] at moved
    cases moved

theorem drainFrom_of_more {capacity : Nat} (positive : 0 < capacity)
    {transfer later : Transfer σ τ} (more : transfer.step capacity = .more later) :
    transfer.drainFrom capacity positive = later.drainFrom capacity positive := by
  rw [drainFrom]
  split
  · rename_i ended
    rw [more] at ended
    cases ended
  · rename_i moved
    rw [more] at moved
    cases moved
    rfl

end Transfer

/-! ### Sources and sinks that follow a list -/

inductive Piece where
  /-- Bytes, handed out over as many pulls as it takes. -/
  | bytes (data : Bytes)
  | endOfStream
  | fail (error : ClientError)
deriving DecidableEq, Repr

/-- A source that hands out listed pieces; after the last one it has ended. -/
structure ListedSource where
  pieces : List Piece
  /-- How often it was pulled. -/
  pulls : Nat

namespace ListedSource

def pull (capacity : Nat) (source : ListedSource) : Except ClientError Pulled × ListedSource :=
  let pulls := source.pulls + 1
  match source.pieces with
  | [] => (.ok .endOfStream, { source with pulls })
  | .endOfStream :: later => (.ok .endOfStream, ⟨later, pulls⟩)
  | .fail error :: later => (.error error, ⟨later, pulls⟩)
  | .bytes data :: later =>
    match data.drop capacity with
    | [] => (.ok (.bytes data), ⟨later, pulls⟩)
    | rest => (.ok (.bytes (data.take capacity)), ⟨.bytes rest :: later, pulls⟩)

/-- A piece counts once, and once for every byte in it. -/
def weight : Piece → Nat
  | .bytes data => data.length + 1
  | _ => 1

def totalWeight : List Piece → Nat
  | [] => 0
  | piece :: later => weight piece + totalWeight later

def span (source : ListedSource) : Nat :=
  totalWeight source.pieces

instance : FiniteSource ListedSource where
  pull := pull
  span := span
  span_lt := by
    intro capacity source later data positive pulled
    simp only [pull] at pulled
    simp only [span]
    split at pulled
    · cases pulled
    · cases pulled
    · cases pulled
    · rename_i whole rest pieces
      split at pulled
      · cases pulled
        rw [pieces]
        simp only [totalWeight, weight]
        omega
      · rename_i rest' nonempty
        cases pulled
        rw [pieces]
        simp only [totalWeight, weight]
        have shorter : (whole.drop capacity).length < whole.length := by
          have : whole ≠ [] := by
            intro none
            rw [none, List.drop_nil] at nonempty
            exact nonempty rfl
          have := List.length_pos_iff.mpr this
          rw [List.length_drop]
          omega
        omega

end ListedSource

structure ListedSink where
  turns : List Wire.Turn
  /-- The bytes that were taken, the last piece first. -/
  pieces : List Bytes

namespace ListedSink

def received (sink : ListedSink) : Bytes :=
  sink.pieces.reverse.flatten

instance : Sink ListedSink where
  write data sink :=
    let written := Wire.writeAll data sink.turns
    (written.outcome, ⟨written.turns, written.accepted :: sink.pieces⟩)

end ListedSink

end SegmentOffload
