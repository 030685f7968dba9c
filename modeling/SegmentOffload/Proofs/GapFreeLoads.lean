import SegmentOffload.Peer.ObjectStore
import SegmentOffload.Proofs.LoadReports

/-!
Loads without gaps.

A plan is ordered by counts and not by offsets, so its chunks may overlap, leave gaps, or go
backwards; each place where a chunk does not start where the one before it ended is reported.  When
nothing is reported the chunks adjoin, and then the file that a load leaves is one range of the
segment, from the start of the first chunk to the end of the last.
-/

namespace SegmentOffload

open Download (Reached chunkSize)

/-! ### Reports of gaps -/

namespace Load

/-- What is reported of a place in a plan: the chunk there should start where the one before it
ends, and starts elsewhere. -/
def gapAt? (segment : Segment) (chunks : List Chunk) : (position : Nat) → Option LogEntry
  | 0 => none
  | before + 1 =>
    match chunks[before]?, chunks[before + 1]? with
    | some earlier, some chunk =>
      let expected := earlier.startOffset.toNat + earlier.byteLength.toNat
      if chunk.startOffset.toNat = expected then none
      else some (.warning "chunk does not start where the previous one ended"
        [("identity", segment.label),
          ("modification_count", decimal chunk.modificationCount.toNat),
          ("expected", decimal expected), ("actual", decimal chunk.startOffset.toNat)])
    | _, _ => none

/-- Every end of a chunk is a word. -/
def EndsFit (chunks : List Chunk) : Prop :=
  ∀ chunk ∈ chunks, chunk.startOffset.toNat + chunk.byteLength.toNat < UInt64.size

instance (chunks : List Chunk) : Decidable (EndsFit chunks) :=
  inferInstanceAs (Decidable (∀ _ ∈ chunks, _))

theorem gapsFrom_eq (segment : Segment) {earlier : Chunk} {expected : UInt64}
    (ends : expected.toNat = earlier.startOffset.toNat + earlier.byteLength.toNat)
    {rest : List Chunk} (fit : EndsFit rest) :
    gapsFrom segment expected rest = (.ok (), (List.range rest.length).filterMap fun position =>
      gapAt? segment (earlier :: rest) (position + 1)) := by
  induction rest generalizing earlier expected with
  | nil => rfl
  | cons chunk rest ih =>
    obtain ⟨next, ended, exact⟩ := chunk.endOffset_eq_ok (fit chunk (List.mem_cons_self ..))
    have later := ih exact fun other listed => fit other (List.mem_cons_of_mem _ listed)
    have further : (List.range (chunk :: rest).length).filterMap (fun position =>
          gapAt? segment (earlier :: chunk :: rest) (position + 1)) =
        (gapAt? segment (earlier :: chunk :: rest) 1).toList ++
          (List.range rest.length).filterMap fun position =>
            gapAt? segment (chunk :: rest) (position + 1) := by
      rw [List.length_cons, List.range_succ_eq_map, List.filterMap_cons, List.filterMap_map]
      cases gapAt? segment (earlier :: chunk :: rest) (0 + 1) with
      | none => rfl
      | some entry => rfl
    have here : (if chunk.startOffset = expected then [] else [gapEntry segment chunk expected]) =
        (gapAt? segment (earlier :: chunk :: rest) 1).toList := by
      change _ = Option.toList (if chunk.startOffset.toNat = _ then none else some _)
      rw [← ends, gapEntry]
      by_cases same : chunk.startOffset = expected
      · rw [if_pos same, if_pos (congrArg UInt64.toNat same)]
        rfl
      · rw [if_neg same, if_neg fun alike => same (UInt64.toNat_inj.mp alike)]
        rfl
    rw [further, ← here]
    simp only [gapsFrom, ended, later]

/-- The reports on a plan are those of its places, in order. -/
theorem gaps_eq (segment : Segment) (readPlan : ReadPlan) (fit : EndsFit readPlan.chunks) :
    gaps segment readPlan = (.ok (), (List.range readPlan.chunks.length).filterMap
      (gapAt? segment readPlan.chunks)) := by
  unfold gaps
  cases chunks : readPlan.chunks with
  | nil => rfl
  | cons first rest =>
    rw [chunks] at fit
    obtain ⟨next, ended, exact⟩ := first.endOffset_eq_ok (fit first (List.mem_cons_self ..))
    have later := gapsFrom_eq segment exact fun other listed =>
      fit other (List.mem_cons_of_mem _ listed)
    rw [List.length_cons, List.range_succ_eq_map, List.filterMap_cons, List.filterMap_map]
    simp only [gapsFrom, ended, if_true, later]
    rfl

theorem gapAt?_eq_some {segment : Segment} {chunks : List Chunk} {position : Nat}
    {entry : LogEntry} (reported : gapAt? segment chunks position = some entry) :
    position < chunks.length ∧
      entry.message = "chunk does not start where the previous one ended" := by
  unfold gapAt? at reported
  split at reported
  · cases reported
  · split at reported
    · rename_i found
      obtain ⟨inside, _⟩ := List.getElem?_eq_some_iff.mp found
      dsimp only at reported
      split at reported
      · cases reported
      · cases reported
        exact ⟨inside, rfl⟩
    · cases reported

/-- Chunks adjoin when nothing is reported of any place. -/
theorem adjoins_of_silence {segment : Segment} {first : Chunk} {rest : List Chunk}
    (silent : ∀ position, gapAt? segment (first :: rest) position = none) :
    Adjoins first.startOffset.toNat (first :: rest) := by
  induction rest generalizing first with
  | nil => exact ⟨rfl, trivial⟩
  | cons chunk rest ih =>
    have others := ih fun position => by
      cases position with
      | zero => rfl
      | succ before => exact silent (before + 2)
    have here := silent 1
    change (if chunk.startOffset.toNat = _ then none else some _) = none at here
    split at here
    · rename_i same
      refine ⟨rfl, ?_⟩
      rw [← same]
      exact others
    · cases here

end Load

/-! ### Ranges -/

/-- The front of each chunk's object is the range of some content that the chunk stands for. -/
def HoldRanges (objects : String → Bytes) (content : Bytes) (chunks : List Chunk) : Prop :=
  ∀ chunk ∈ chunks,
    chunk.startOffset.toNat + chunk.byteLength.toNat ≤ content.length ∧
      (content.drop chunk.startOffset.toNat).take chunk.byteLength.toNat <+:
        objects chunk.remotePath

instance (objects : String → Bytes) (content : Bytes) (chunks : List Chunk) :
    Decidable (HoldRanges objects content chunks) :=
  inferInstanceAs (Decidable (∀ _ ∈ chunks, _))

/-- A file is the range of some content from where the first chunk starts to where the last one
ends, and so many bytes long; without chunks it is empty. -/
def IsWholeRange (content : Bytes) (chunks : List Chunk) (file : Bytes) (bytes : Nat) : Prop :=
  match chunks with
  | [] => file = [] ∧ bytes = 0
  | first :: rest =>
    let last := (first :: rest).getLast (List.cons_ne_nil first rest)
    let upTo := last.startOffset.toNat + last.byteLength.toNat
    first.startOffset.toNat ≤ upTo ∧ bytes = upTo - first.startOffset.toNat ∧
      file = (content.drop first.startOffset.toNat).take bytes ∧ file.length = bytes

theorem Adjoins.upTo {offset : Nat} {first : Chunk} {rest : List Chunk}
    (adjoins : Adjoins offset (first :: rest)) :
    let last := (first :: rest).getLast (List.cons_ne_nil first rest)
    last.startOffset.toNat + last.byteLength.toNat = offset + chunkSize (first :: rest) := by
  induction rest generalizing offset first with
  | nil =>
    obtain ⟨starts, _⟩ := adjoins
    change first.startOffset.toNat + first.byteLength.toNat = offset + (_ + 0)
    rw [starts, Nat.add_zero]
  | cons chunk rest ih =>
    obtain ⟨_, others⟩ := adjoins
    have later := ih others
    have size : chunkSize (first :: chunk :: rest) =
        first.byteLength.toNat + chunkSize (chunk :: rest) := rfl
    dsimp only at later ⊢
    rw [List.getLast_cons (List.cons_ne_nil chunk rest), later, size, Nat.add_assoc]

/-- Adjoining chunks whose objects hold their ranges promise one whole range. -/
theorem promisedBytes_isWholeRange {objects : String → Bytes} {content : Bytes}
    {chunks : List Chunk} (held : HoldRanges objects content chunks)
    (adjoins : ∀ first rest, chunks = first :: rest → Adjoins first.startOffset.toNat chunks) :
    IsWholeRange content chunks (promisedBytes objects chunks)
      (promisedBytes objects chunks).length := by
  cases chunks with
  | nil => exact ⟨rfl, rfl⟩
  | cons first rest =>
    have inOrder := adjoins first rest rfl
    have upTo := inOrder.upTo
    dsimp only at upTo
    have promised : promisedBytes objects (first :: rest) =
        (content.drop first.startOffset.toNat).take (chunkSize (first :: rest)) := by
      apply promisedBytes_of_adjoins inOrder
      intro chunk listed
      obtain ⟨within, front⟩ := held chunk listed
      have whole : ((content.drop chunk.startOffset.toNat).take chunk.byteLength.toNat).length =
          chunk.byteLength.toNat := by
        rw [List.length_take, List.length_drop]
        omega
      have same := List.prefix_iff_eq_take.mp front
      rw [whole] at same
      exact same.symm
    have size : (promisedBytes objects (first :: rest)).length = chunkSize (first :: rest) := by
      have within := (held _ (List.getLast_mem (List.cons_ne_nil first rest))).1
      rw [promised, List.length_take, List.length_drop]
      omega
    refine ⟨?_, ?_, ?_, rfl⟩
    · omega
    · omega
    · rw [size]
      exact promised

/-! ### Loading -/

namespace Load

variable {π : Type} [Peer π]

/-- A plan's gaps are reported place by place; and a load that goes well and reports none leaves the
whole range of its chunks, whatever order their offsets are in. -/
theorem gap_free_loads_restore_range {catalog : Catalog} {segment : Segment} {readPlan : ReadPlan}
    (resolved : (ReadPlan.resolve (catalog.chunksOf segment)).outcome = .ok readPlan)
    (fit : EndsFit readPlan.chunks) :
    gaps segment readPlan = (.ok (), (List.range readPlan.chunks.length).filterMap
        (gapAt? segment readPlan.chunks)) ∧
      ∀ {objects : String → Bytes} {config : ClientConfig} {meant : Nat → π → Prop}
        {content : Bytes} {path : String} {host later : Host π} {bytes chunks duplicates : Nat},
        ServesObjects objects config readPlan.chunks meant → Reached meant host.client.network →
        HoldRanges objects content readPlan.chunks →
        load config catalog segment path host =
          (.ok (.loaded bytes chunks duplicates), later) →
        (∀ entry ∈ later.client.journal.drop host.client.journal.length,
          entry.message ≠ "chunk does not start where the previous one ended") →
        ∃ file, later.disk.stat path = .ok (.file file) ∧
          IsWholeRange content readPlan.chunks file bytes := by
  have places := gaps_eq segment readPlan fit
  refine ⟨places, ?_⟩
  intro objects config meant content path host later bytes chunks duplicates serves reached held
    loaded silent
  obtain ⟨same, promised, resolvedSame, _, copied, reports⟩ := load_eq_ok loaded
  rw [resolved] at resolvedSame
  cases resolvedSame
  have none : ∀ position, gapAt? segment readPlan.chunks position = none := by
    intro position
    cases reported : gapAt? segment readPlan.chunks position with
    | none => rfl
    | some entry =>
      obtain ⟨inside, message⟩ := gapAt?_eq_some reported
      have listed : entry ∈ (gaps segment readPlan).2 := by
        rw [places]
        exact List.mem_filterMap.mpr ⟨position, List.mem_range.mpr inside, reported⟩
      obtain ⟨more, whole⟩ := reports
      have added : entry ∈ later.client.journal.drop host.client.journal.length := by
        rw [← whole, List.append_assoc, List.append_assoc, List.drop_left]
        exact List.mem_append_right _ (List.mem_append_left _ listed)
      exact absurd message (silent entry added)
  let ready := (host.reportAll (ReadPlan.resolve (catalog.chunksOf segment)).journal).reportAll
    (gaps segment readPlan).2
  have stillReached : Reached meant ready.client.network := reached
  obtain ⟨outcome, stat⟩ := copy_eq_ok readPlan serves stillReached copied
  refine ⟨_, stat, ?_⟩
  cases outcome
  apply promisedBytes_isWholeRange held
  intro first rest same
  rw [same] at none ⊢
  exact adjoins_of_silence none

/-! ### A range within a file -/

def soleFile : Segment := ⟨0, 1663, 5, "relation", 7, 0⟩

def adjoiningChunks : List Chunk := [⟨1, 0, "a", 2, 2, false⟩, ⟨2, 0, "b", 3, 4, false⟩]

def adjoiningRows : Catalog := ⟨"/catalog", adjoiningChunks.map fun chunk => ⟨soleFile, chunk⟩⟩

def inFours : ClientConfig := { ClientConfig.default with socketPath := "/s", readBufferSize := 4 }

/-- A store with one object that is longer than its chunk, whose first connection breaks off. -/
def adjoiningHost : Host ObjectStore where
  client := ⟨⟨{ ObjectStore.empty with
    objects := [("a", [3, 4, 9]), ("b", [5, 6, 7])], faults := [.dropAfter 1] }, []⟩, []⟩
  disk := { Disk.empty with nodes := [(["s"], .socket)] }

theorem resolve_adjoiningRows :
    ReadPlan.resolve (adjoiningRows.chunksOf soleFile) = ⟨.ok ⟨adjoiningChunks, []⟩, []⟩ := by
  have rows : adjoiningRows.chunksOf soleFile = adjoiningChunks := by decide
  rw [rows]
  exact ReadPlan.resolve_of_ascending (by decide) (by decide)

theorem load_adjoiningRows :
    load inFours adjoiningRows soleFile "/x" adjoiningHost =
      copy inFours soleFile "/x" ⟨adjoiningChunks, []⟩ 5 adjoiningHost := by
  have absent : adjoiningHost.disk.isPresent "/x" = false := by decide +kernel
  have silent : gaps soleFile ⟨adjoiningChunks, []⟩ = (.ok (), []) := by decide +kernel
  have promised : ReadPlan.totalBytes ⟨adjoiningChunks, []⟩ = .ok 5 := by decide +kernel
  rw [load, absent, plan_eq, planOf, resolve_adjoiningRows]
  simp only [silent, promised, reportAll_nil, Bool.false_eq_true, if_false]

theorem evaluate_adjoiningRows :
    (load inFours adjoiningRows soleFile "/x" adjoiningHost).1 = .ok (.loaded 5 2 0) ∧
      (load inFours adjoiningRows soleFile "/x" adjoiningHost).2.client.journal.length = 1 ∧
      ∀ entry ∈ (load inFours adjoiningRows soleFile "/x" adjoiningHost).2.client.journal,
        entry.message ≠ "chunk does not start where the previous one ended" := by
  rw [load_adjoiningRows]
  decide +kernel

/-- The one report is about the connection; the file is the range from the third byte to the seventh
of any content with these bytes there. -/
theorem gap_free_load_over_broken_connection :
    gaps soleFile ⟨adjoiningChunks, []⟩ = (.ok (), []) ∧
      (load inFours adjoiningRows soleFile "/x" adjoiningHost).1 = .ok (.loaded 5 2 0) ∧
      (load inFours adjoiningRows soleFile "/x" adjoiningHost).2.client.journal.length = 1 ∧
      (load inFours adjoiningRows soleFile "/x" adjoiningHost).2.disk.stat "/x" =
        .ok (.file [3, 4, 5, 6, 7]) := by
  obtain ⟨outcome, reported, silent⟩ := evaluate_adjoiningRows
  generalize loaded : load inFours adjoiningRows soleFile "/x" adjoiningHost = result at *
  obtain ⟨_, later⟩ := result
  cases outcome
  have understands : ObjectStore.UnderstandsDownload inFours adjoiningChunks := by
    constructor
    · decide
    · decide
    · decide +kernel
  have resolved := congrArg ReadPlan.Resolution.outcome resolve_adjoiningRows
  have fit : EndsFit adjoiningChunks := by decide +kernel
  have held : HoldRanges adjoiningHost.client.network.peer.content [1, 2, 3, 4, 5, 6, 7, 8]
      adjoiningChunks := by decide +kernel
  obtain ⟨file, stat, whole⟩ := (gap_free_loads_restore_range resolved fit).2
    (ObjectStore.servesObjects understands adjoiningHost.client.network.peer) ⟨rfl, rfl⟩ held
    loaded silent
  obtain ⟨_, _, rfl, _⟩ := whole
  exact ⟨by decide +kernel, rfl, reported, stat⟩

end Load

end SegmentOffload
