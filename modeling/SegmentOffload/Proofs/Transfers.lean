import SegmentOffload.Proofs.Wire.Arrivals
import SegmentOffload.Transfer

/-!
Copying loses, repeats and reorders nothing.

A reader fills the front of a buffer and says how far; the same buffer goes into every pull, so that
what stands behind the front may come from an earlier one.  A copy pulls and writes in turn.
However the pulls and the writes come out, what the sink took is what was pulled, in order: all of
it where the copy goes on or ends well, and all but the end of the last piece where a write fails.
-/

namespace SegmentOffload

/-! ### Readers -/

/-- What a pull says of the buffer that it was given. -/
inductive Filled where
  /-- So many bytes of the front are new. -/
  | bytes (count : Nat)
  | endOfStream
deriving DecidableEq, Repr

/-- Something that fills the front of a buffer, and may leave anything behind that front. -/
class Reader (ρ : Type) where
  fill : Bytes → ρ → Except ClientError Filled × Bytes × ρ
  length_fill : ∀ (buffer : Bytes) (reader : ρ), (fill buffer reader).2.1.length = buffer.length
  count_le : ∀ {buffer : Bytes} {reader : ρ} {count : Nat},
    (fill buffer reader).1 = .ok (.bytes count) → count ≤ buffer.length

/-- A reader with the one buffer that all its pulls fill. -/
structure Buffered (ρ : Type) where
  reader : ρ
  buffer : Bytes

namespace Buffered

variable {ρ : Type} [Reader ρ]

/-- The buffer's length is the limit of the pull. -/
def pull (source : Buffered ρ) : Except ClientError Pulled × Buffered ρ :=
  match Reader.fill source.buffer source.reader with
  | (.error error, buffer, reader) => (.error error, ⟨reader, buffer⟩)
  | (.ok .endOfStream, buffer, reader) => (.ok .endOfStream, ⟨reader, buffer⟩)
  | (.ok (.bytes count), buffer, reader) => (.ok (.bytes (buffer.take count)), ⟨reader, buffer⟩)

instance : Source (Buffered ρ) where
  pull _ source := source.pull

/-- What is handed out is the front that was filled in that pull, as long as the reader says, and
nothing of what stands behind it. -/
theorem front_of_pull {source later : Buffered ρ} {piece : Bytes}
    (pulled : source.pull = (.ok (.bytes piece), later)) :
    ∃ count, Reader.fill source.buffer source.reader =
        (.ok (.bytes count), later.buffer, later.reader) ∧
      piece = later.buffer.take count ∧ piece.length = count ∧
      later.buffer.length = source.buffer.length := by
  have sameLength := Reader.length_fill source.buffer source.reader
  unfold pull at pulled
  split at pulled
  · cases pulled
  · cases pulled
  · rename_i count buffer reader filled
    have bounded := Reader.count_le (congrArg Prod.fst filled)
    rw [filled] at sameLength
    cases pulled
    refine ⟨count, filled, rfl, ?_, sameLength⟩
    rw [List.length_take, sameLength, Nat.min_eq_left bounded]

end Buffered

namespace Transfer

/-! ### Copies -/

section

variable {σ τ : Type} [Source σ] [Sink τ]

/-- At most so many steps, and none after one that finishes. -/
def rounds (capacity : Nat) : Nat → Transfer σ τ → Step σ τ
  | 0, transfer => .more transfer
  | count + 1, transfer =>
    match transfer.step capacity with
    | .more later => rounds capacity count later
    | .finished outcome last => .finished outcome last

end

/-- Copy what a reader has, over at most so many pulls. -/
def copyThrough {ρ τ : Type} [Reader ρ] [Sink τ] (buffer : Bytes) (count : Nat) (reader : ρ)
    (sink : τ) : Step (Buffered ρ) τ :=
  if buffer = [] then .finished (.error .emptyBuffer) ⟨⟨reader, buffer⟩, sink, 0⟩
  else rounds buffer.length count ⟨⟨reader, buffer⟩, sink, 0⟩

variable {σ : Type} [Source σ]

/-- Pulls in a row hand out these pieces, and leave the source as the last one left it. -/
inductive Hands (capacity : Nat) (source : σ) : List Bytes → σ → Prop
  | nothing : Hands capacity source [] source
  | more {pieces : List Bytes} {piece : Bytes} {between later : σ}
      (before : Hands capacity source pieces between)
      (pulled : Source.pull capacity between = (.ok (.bytes piece), later)) :
      Hands capacity source (pieces ++ [piece]) later

/-- A sink took these pieces, each in one write, behind what it held. -/
structure Takes (sink : ListedSink) (pieces : List Bytes) (later : ListedSink) : Prop where
  written : later.pieces = pieces.reverse ++ sink.pieces
  received : later.received = sink.received ++ pieces.flatten

/-- What pulls and writes have come to, by how a copy stands. -/
inductive CopyOf (capacity : Nat) (source : σ) (sink : ListedSink) : Step σ ListedSink → Prop
  /-- All that was pulled is written. -/
  | underway {pieces : List Bytes} {later : Transfer σ ListedSink}
      (handed : Hands capacity source pieces later.source)
      (taken : Takes sink pieces later.sink)
      (counted : later.moved = pieces.flatten.length) :
      CopyOf capacity source sink (.more later)
  /-- One pull found the end, and was the last. -/
  | whole {pieces : List Bytes} {between : σ} {total : Nat} {last : Transfer σ ListedSink}
      (handed : Hands capacity source pieces between)
      (ended : Source.pull capacity between = (.ok .endOfStream, last.source))
      (taken : Takes sink pieces last.sink)
      (counted : total = pieces.flatten.length) :
      CopyOf capacity source sink (.finished (.ok total) last)
  /-- One pull failed, and was the last; all that was pulled before is written. -/
  | sourceFailed {pieces : List Bytes} {between : σ} {error : ClientError}
      {last : Transfer σ ListedSink}
      (handed : Hands capacity source pieces between)
      (failed : Source.pull capacity between = (.error error, last.source))
      (taken : Takes sink pieces last.sink) :
      CopyOf capacity source sink (.finished (.error (.source error)) last)
  /-- The write of one piece failed behind some front of it; its pull was the last. -/
  | sinkFailed {pieces : List Bytes} {piece front : Bytes} {between : σ} {error : IoError}
      {last : Transfer σ ListedSink}
      (handed : Hands capacity source pieces between)
      (pulled : Source.pull capacity between = (.ok (.bytes piece), last.source))
      (within : front <+: piece)
      (short : front ≠ piece)
      (taken : Takes sink (pieces ++ [front]) last.sink) :
      CopyOf capacity source sink (.finished (.error (.sink error)) last)

/-! ### Steps -/

theorem takes_nothing (sink : ListedSink) : Takes sink [] sink where
  written := rfl
  received := (List.append_nil _).symm

/-- A write adds what it took to what was taken before. -/
theorem Takes.write {sink between : ListedSink} {pieces : List Bytes}
    (taken : Takes sink pieces between) (data : Bytes) :
    Takes sink (pieces ++ [(Wire.writeAll data between.turns).accepted])
      (Sink.write data between).2 := by
  let accepted := (Wire.writeAll data between.turns).accepted
  constructor
  · change accepted :: between.pieces = (pieces ++ [accepted]).reverse ++ sink.pieces
    rw [taken.written, List.reverse_append, List.reverse_singleton, List.append_assoc,
      List.singleton_append]
  · change (accepted :: between.pieces).reverse.flatten =
      sink.received ++ (pieces ++ [accepted]).flatten
    have before : between.pieces.reverse.flatten = sink.received ++ pieces.flatten :=
      taken.received
    rw [List.reverse_cons, List.flatten_append, before, List.append_assoc, List.flatten_append]

variable {capacity : Nat} {source : σ} {sink : ListedSink}

theorem copyOf_start : CopyOf capacity source sink (.more ⟨source, sink, 0⟩) :=
  .underway .nothing (takes_nothing sink) rfl

/-- One step keeps the account. -/
theorem CopyOf.step {transfer : Transfer σ ListedSink}
    (before : CopyOf capacity source sink (.more transfer)) :
    CopyOf capacity source sink (transfer.step capacity) := by
  cases before with
  | underway handed taken counted =>
    rename_i pieces
    unfold Transfer.step
    split
    · rename_i failed
      exact .sourceFailed handed failed taken
    · rename_i ended
      exact .whole handed ended taken counted
    · rename_i data later pulled
      have wrote := taken.write data
      split
      · rename_i after written
        rw [written] at wrote
        have fine : (Wire.writeAll data transfer.sink.turns).outcome = .ok () :=
          congrArg Prod.fst written
        rw [Wire.accepted_of_writeAll fine] at wrote
        refine .underway (handed.more pulled) wrote ?_
        rw [List.flatten_append, List.length_append, List.flatten_singleton, counted]
      · rename_i error after written
        rw [written] at wrote
        refine .sinkFailed handed pulled (Wire.accepted_isPrefix_of_writeAll data _) ?_ wrote
        intro same
        have fine : (Sink.write data transfer.sink).1 = .ok () := Wire.writeAll_of_accepted same
        rw [written] at fine
        cases fine

/-! ### Runs -/

/-- However many pulls are allowed, the account holds where they end. -/
theorem CopyOf.rounds {transfer : Transfer σ ListedSink}
    (before : CopyOf capacity source sink (.more transfer)) (count : Nat) :
    CopyOf capacity source sink (transfer.rounds capacity count) := by
  induction count generalizing transfer with
  | zero => exact before
  | succ count ih =>
    have stepped := before.step
    unfold Transfer.rounds
    split
    · rename_i later more
      rw [more] at stepped
      exact ih stepped
    · rename_i outcome last finished
      rw [finished] at stepped
      exact stepped

/-- A source that ends is drained in finitely many rounds. -/
theorem exists_rounds_eq_drainFrom {φ τ : Type} [FiniteSource φ] [Sink τ] {capacity : Nat}
    (positive : 0 < capacity) (transfer : Transfer φ τ) :
    ∃ count, transfer.rounds capacity count =
      .finished (transfer.drainFrom capacity positive).1
        (transfer.drainFrom capacity positive).2 := by
  induction left : FiniteSource.span transfer.source using Nat.strongRecOn
    generalizing transfer with
  | ind left ih =>
    cases stepped : transfer.step capacity with
    | finished outcome last =>
      refine ⟨1, ?_⟩
      rw [rounds, stepped, drainFrom_of_finished positive stepped]
    | more later =>
      have nearer := span_lt_of_step_eq_more positive stepped
      obtain ⟨count, same⟩ := ih _ (left ▸ nearer) later rfl
      refine ⟨count + 1, ?_⟩
      rw [rounds, stepped, drainFrom_of_more positive stepped]
      exact same

/-- Nothing that is pulled is lost, repeated or reordered on its way into a sink, whether a reader
fills one buffer over and over or a source that ends is drained; what stands behind the front of the
buffer never gets there, and with an empty buffer nothing is pulled or written. -/
theorem copies_lose_repeat_and_reorder_nothing {ρ φ : Type} [Reader ρ] [FiniteSource φ]
    (reader : ρ) (source : φ) (sink : ListedSink) :
    (∀ (buffer : Bytes) (count : Nat),
      (buffer = [] → copyThrough buffer count reader sink =
        .finished (.error .emptyBuffer) ⟨⟨reader, buffer⟩, sink, 0⟩) ∧
      (buffer ≠ [] → CopyOf buffer.length ⟨reader, buffer⟩ sink
        (copyThrough buffer count reader sink))) ∧
    (∀ (buffered later : Buffered ρ) (piece : Bytes),
      buffered.pull = (.ok (.bytes piece), later) →
        ∃ count, Reader.fill buffered.buffer buffered.reader =
            (.ok (.bytes count), later.buffer, later.reader) ∧
          piece = later.buffer.take count ∧ piece.length = count ∧
          later.buffer.length = buffered.buffer.length) ∧
    ∀ capacity : Nat,
      (capacity = 0 → drain capacity source sink = (.error .emptyBuffer, ⟨source, sink, 0⟩)) ∧
      (0 < capacity → CopyOf capacity source sink
        (.finished (drain capacity source sink).1 (drain capacity source sink).2)) := by
  refine ⟨fun buffer count => ⟨fun empty => if_pos empty, fun filled => ?_⟩,
    fun _ _ _ pulled => Buffered.front_of_pull pulled, fun capacity => ⟨?_, fun positive => ?_⟩⟩
  · rw [copyThrough, if_neg filled]
    exact copyOf_start.rounds count
  · rintro rfl
    rfl
  · obtain ⟨count, same⟩ := exists_rounds_eq_drainFrom positive ⟨source, sink, 0⟩
    have account : CopyOf capacity source sink (rounds capacity count ⟨source, sink, 0⟩) :=
      copyOf_start.rounds count
    rw [same] at account
    rw [drain, dif_pos positive]
    exact account

end Transfer

/-! ### A buffer with stale bytes -/

/-- A reader that leaves the buffer alone behind the bytes it fills in, which are listed. -/
structure ListedReader where
  fills : List Bytes

instance : Reader ListedReader where
  fill buffer reader :=
    match reader.fills with
    | [] => (.ok .endOfStream, buffer, reader)
    | data :: later =>
      let front := data.take buffer.length
      (.ok (.bytes front.length), front ++ buffer.drop front.length, ⟨later⟩)
  length_fill := by
    intro buffer reader
    split
    · rfl
    · simp only [List.length_append, List.length_take, List.length_drop]
      omega
  count_le := by
    intro buffer reader count filled
    split at filled
    · cases filled
    · cases filled
      rw [List.length_take]
      exact Nat.min_le_left _ _

namespace Transfer

/-- The second pull fills one byte in front of three that the first one left; the writes take three
bytes, the fourth, and what follows.  Another sink breaks within the first piece of a source. -/
theorem stale_bytes_are_not_copied :
    let reader : ListedReader := ⟨[[1, 2, 3, 4], [5]]⟩
    let source : ListedSource := ⟨[.bytes [1, 2, 3, 4, 5], .endOfStream], 0⟩
    let slow : ListedSink := ⟨[.upTo 3, .interrupted], []⟩
    let broken : ListedSink := ⟨[.upTo 3, .fail .brokenPipe], []⟩
    CopyOf 4 ⟨reader, [0, 0, 0, 0]⟩ slow (copyThrough [0, 0, 0, 0] 3 reader slow) ∧
      copyThrough [0, 0, 0, 0] 3 reader slow =
        .finished (.ok 5) ⟨⟨⟨[]⟩, [5, 2, 3, 4]⟩, ⟨[], [[5], [1, 2, 3, 4]]⟩, 5⟩ ∧
      CopyOf 4 source broken
        (.finished (drain 4 source broken).1 (drain 4 source broken).2) := by
  intro reader source slow broken
  have copied := (copies_lose_repeat_and_reorder_nothing reader source slow).1
  have drained := (copies_lose_repeat_and_reorder_nothing reader source broken).2.2
  exact ⟨(copied [0, 0, 0, 0] 3).2 (List.cons_ne_nil _ _), rfl, (drained 4).2 (by decide)⟩

end Transfer

end SegmentOffload
