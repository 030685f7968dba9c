import SegmentOffload.DownloadSource

/-!
What a download has handed out, read off its cursor.

The bytes handed out are those of the complete chunks and the consumed front of the chunk at the
position.  Beginning a chunk, advancing in it and failing on it keep the accounts, whatever the
connection does.
-/

namespace SegmentOffload

/-- The bytes that chunks stand for: from the front of each chunk's object, as many as the chunk
holds. -/
def promisedBytes (objects : String → Bytes) (chunks : List Chunk) : Bytes :=
  chunks.flatMap fun chunk => (objects chunk.remotePath).take chunk.byteLength.toNat

section

variable {objects : String → Bytes}

@[simp] theorem promisedBytes_nil : promisedBytes objects [] = [] := rfl

theorem promisedBytes_append (earlier later : List Chunk) :
    promisedBytes objects (earlier ++ later) =
      promisedBytes objects earlier ++ promisedBytes objects later :=
  List.flatMap_append

theorem promisedBytes_take_succ {chunks : List Chunk} {position : Nat} {chunk : Chunk}
    (found : chunks[position]? = some chunk) :
    promisedBytes objects (chunks.take (position + 1)) =
      promisedBytes objects (chunks.take position) ++
        (objects chunk.remotePath).take chunk.byteLength.toNat := by
  rw [List.take_add_one, found, promisedBytes_append]
  simp only [Option.toList_some, promisedBytes, List.flatMap_cons, List.flatMap_nil,
    List.append_nil]

theorem promisedBytes_take_isPrefix (objects : String → Bytes) (chunks : List Chunk)
    (position : Nat) :
    promisedBytes objects (chunks.take position) <+: promisedBytes objects chunks := by
  refine ⟨promisedBytes objects (chunks.drop position), ?_⟩
  rw [← promisedBytes_append, List.take_append_drop]

theorem take_further {whole data : Bytes} {taken : Nat} (next : data <+: whole.drop taken)
    (reached : taken ≤ whole.length) :
    whole.take (taken + data.length) = whole.take taken ++ data ∧
      taken + data.length ≤ whole.length := by
  constructor
  · rw [List.take_add, ← List.prefix_iff_eq_take.mp next]
  · have fits := next.length_le
    rw [List.length_drop] at fits
    omega

/-- Chunks whose objects are long enough stand for as many bytes as they hold. -/
theorem length_promisedBytes {chunks : List Chunk}
    (long : ∀ chunk ∈ chunks, chunk.byteLength.toNat ≤ (objects chunk.remotePath).length) :
    (promisedBytes objects chunks).length = Download.chunkSize chunks := by
  induction chunks with
  | nil => rfl
  | cons chunk rest ih =>
    have enough := long chunk (List.mem_cons_self ..)
    have others : ∀ chunk ∈ rest, chunk.byteLength.toNat ≤ (objects chunk.remotePath).length := by
      intro other listed
      exact long other (List.mem_cons_of_mem _ listed)
    rw [← List.singleton_append, promisedBytes_append, List.length_append, ih others]
    simp only [promisedBytes, List.flatMap_cons, List.flatMap_nil, List.append_nil,
      List.length_take, List.singleton_append, Download.chunkSize]
    omega

end

/-- Bytes that lie within one of some chunks, right behind bytes that were handed out before. -/
def LiesWithinChunk (objects : String → Bytes) (chunks : List Chunk) (handed data : Bytes) : Prop :=
  ∃ before chunk after skipped, chunks = before ++ chunk :: after ∧
    handed = promisedBytes objects before ++ (objects chunk.remotePath).take skipped ∧
    skipped + data.length ≤ chunk.byteLength.toNat ∧
    data <+: (objects chunk.remotePath).drop skipped

namespace Download

/-- The cursor of a download of some chunks agrees with the bytes that were handed out. -/
structure Accounts (objects : String → Bytes) (config : ClientConfig) (chunks : List Chunk)
    (handed : Bytes) (download : Download) : Prop where
  sameConfig : download.config = config
  sameChunks : download.chunks = chunks
  filled : ∀ chunk ∈ chunks, chunk.byteLength.toNat ≠ 0
  inside : download.position ≤ chunks.length
  /-- Complete chunks were complete on the far side. -/
  complete : ∀ chunk ∈ chunks.take download.position,
    chunk.byteLength.toNat ≤ (objects chunk.remotePath).length
  between : download.remaining = 0 →
    handed = promisedBytes objects (chunks.take download.position)
  within : download.remaining ≠ 0 →
    ∃ chunk, chunks[download.position]? = some chunk ∧
      download.consumed + download.remaining = chunk.byteLength.toNat ∧
      download.consumed ≤ (objects chunk.remotePath).length ∧
      handed = promisedBytes objects (chunks.take download.position) ++
        (objects chunk.remotePath).take download.consumed
  counted : download.delivered = handed.length
  exhausted : download.phase = .exhausted →
    download.position = chunks.length ∧ download.remaining = 0

variable {objects : String → Bytes} {config : ClientConfig} {chunks : List Chunk} {handed : Bytes}
  {download : Download}

theorem accounts_ofChunks (objects : String → Bytes) (config : ClientConfig)
    (chunks : List Chunk) :
    Accounts objects config (chunks.filter fun chunk => !chunk.isEmpty) []
      (ofChunks config chunks) where
  sameConfig := rfl
  sameChunks := rfl
  filled := by
    intro chunk listed empty
    have kept := (List.mem_filter.mp listed).2
    have zero : chunk.byteLength = 0 := UInt64.toNat_inj.mp empty
    rw [Chunk.isEmpty, zero] at kept
    cases kept
  inside := Nat.zero_le _
  complete := by
    intro chunk listed
    cases listed
  between := by
    intro _
    rfl
  within := by
    intro begun
    exact absurd rfl begun
  counted := rfl
  exhausted := by
    intro impossible
    cases impossible

namespace Accounts

theorem isPrefix (accounts : Accounts objects config chunks handed download) :
    handed <+: promisedBytes objects chunks := by
  by_cases unbegun : download.remaining = 0
  · rw [accounts.between unbegun]
    exact promisedBytes_take_isPrefix objects chunks _
  · obtain ⟨chunk, found, size, _, same⟩ := accounts.within unbegun
    have whole := promisedBytes_take_isPrefix objects chunks (download.position + 1)
    rw [promisedBytes_take_succ found] at whole
    rw [same]
    refine List.IsPrefix.trans ?_ whole
    rw [List.prefix_append_right_inj]
    exact List.take_prefix_take_left (by omega)

theorem whole (accounts : Accounts objects config chunks handed download)
    (ended : download.phase = .exhausted) :
    handed = promisedBytes objects chunks ∧
      ∀ chunk ∈ chunks, chunk.byteLength.toNat ≤ (objects chunk.remotePath).length := by
  obtain ⟨last, nothing⟩ := accounts.exhausted ended
  have all : chunks.take download.position = chunks := by
    rw [last, List.take_length]
  have same := accounts.between nothing
  have complete := accounts.complete
  rw [all] at same complete
  exact ⟨same, complete⟩

theorem begin {chunk : Chunk} (accounts : Accounts objects config chunks handed download)
    (found : download.chunks[download.position]? = some chunk) :
    Accounts objects config chunks handed (download.begin chunk) ∧
      (download.begin chunk).remaining ≠ 0 := by
  rw [accounts.sameChunks] at found
  unfold Download.begin
  split
  · rename_i unbegun
    have owing : chunk.byteLength.toNat ≠ 0 := accounts.filled chunk (List.mem_of_getElem? found)
    refine ⟨?_, owing⟩
    exact {
      sameConfig := accounts.sameConfig
      sameChunks := accounts.sameChunks
      filled := accounts.filled
      inside := accounts.inside
      complete := accounts.complete
      between := by
        intro nothing
        exact absurd nothing owing
      within := by
        intro _
        refine ⟨chunk, found, Nat.zero_add _, Nat.zero_le _, ?_⟩
        rw [List.take_zero, List.append_nil]
        exact accounts.between unbegun
      counted := accounts.counted
      exhausted := by
        intro ended
        have last := (accounts.exhausted ended).1
        have inside := (List.getElem?_eq_some_iff.mp found).1
        omega }
  · rename_i begun
    exact ⟨accounts, begun⟩

/-- A phase that says nothing of the end may be taken at any time. -/
theorem withPhase (accounts : Accounts objects config chunks handed download)
    {phase : DownloadPhase} (failures : Nat) (unfinished : phase ≠ .exhausted) :
    Accounts objects config chunks handed { download with phase, failures } where
  sameConfig := accounts.sameConfig
  sameChunks := accounts.sameChunks
  filled := accounts.filled
  inside := accounts.inside
  complete := accounts.complete
  between := accounts.between
  within := accounts.within
  counted := accounts.counted
  exhausted := by
    intro ended
    exact absurd ended unfinished

theorem exhaust (accounts : Accounts objects config chunks handed download)
    (none : download.chunks[download.position]? = none) :
    Accounts objects config chunks handed { download with phase := .exhausted } where
  sameConfig := accounts.sameConfig
  sameChunks := accounts.sameChunks
  filled := accounts.filled
  inside := accounts.inside
  complete := accounts.complete
  between := accounts.between
  within := accounts.within
  counted := accounts.counted
  exhausted := by
    intro _
    have inside := accounts.inside
    rw [accounts.sameChunks] at none
    have beyond := List.getElem?_eq_none_iff.mp none
    refine ⟨by change download.position = _; omega, ?_⟩
    by_cases unbegun : download.remaining = 0
    · exact unbegun
    · obtain ⟨chunk, found, _⟩ := accounts.within unbegun
      rw [none] at found
      cases found

theorem currentPath {chunk : Chunk} (accounts : Accounts objects config chunks handed download)
    (found : chunks[download.position]? = some chunk) :
    download.currentPath = chunk.remotePath := by
  rw [Download.currentPath, accounts.sameChunks, found]

theorem liesWithinChunk {data : Bytes} (accounts : Accounts objects config chunks handed download)
    (within : data.length ≤ download.remaining) (begun : download.remaining ≠ 0)
    (next : data <+: (objects download.currentPath).drop download.consumed) :
    LiesWithinChunk objects chunks handed data := by
  obtain ⟨chunk, found, size, _, same⟩ := accounts.within begun
  rw [accounts.currentPath found] at next
  obtain ⟨inside, here⟩ := List.getElem?_eq_some_iff.mp found
  refine ⟨chunks.take download.position, chunk, chunks.drop (download.position + 1),
    download.consumed, ?_, same, by omega, next⟩
  rw [← here, ← List.drop_eq_getElem_cons inside, List.take_append_drop]

theorem advance {data : Bytes} (accounts : Accounts objects config chunks handed download)
    (within : data.length ≤ download.remaining) (begun : download.remaining ≠ 0)
    (next : data <+: (objects download.currentPath).drop download.consumed) :
    Accounts objects config chunks (handed ++ data) (download.advance data.length) := by
  obtain ⟨chunk, found, size, reached, same⟩ := accounts.within begun
  rw [accounts.currentPath found] at next
  have inside := (List.getElem?_eq_some_iff.mp found).1
  rcases take_further next reached with ⟨front, further⟩
  have counted : download.delivered + data.length = (handed ++ data).length := by
    rw [List.length_append, accounts.counted]
  unfold Download.advance
  dsimp only
  split
  · rename_i finished
    have lastByte : download.consumed + data.length = chunk.byteLength.toNat := by omega
    exact {
      sameConfig := accounts.sameConfig
      sameChunks := accounts.sameChunks
      filled := accounts.filled
      inside := inside
      complete := by
        intro other listed
        change other ∈ chunks.take (download.position + 1) at listed
        rw [List.take_add_one, found, List.mem_append] at listed
        rcases listed with earlier | last
        · exact accounts.complete other earlier
        · rw [Option.toList_some, List.mem_singleton] at last
          rw [last]
          omega
      between := by
        intro _
        change handed ++ data = promisedBytes objects (chunks.take (download.position + 1))
        rw [promisedBytes_take_succ found, ← lastByte, front, ← List.append_assoc, ← same]
      within := by
        intro owing
        exact absurd finished owing
      counted := counted
      exhausted := by
        intro ended
        refine ⟨?_, finished⟩
        change download.position + 1 = chunks.length
        by_cases last : download.chunks.length ≤ download.position + 1
        · rw [accounts.sameChunks] at last
          omega
        · rw [if_neg last] at ended
          cases ended }
  · rename_i owing
    exact {
      sameConfig := accounts.sameConfig
      sameChunks := accounts.sameChunks
      filled := accounts.filled
      inside := accounts.inside
      complete := accounts.complete
      between := by
        intro finished
        exact absurd finished owing
      within := by
        intro _
        refine ⟨chunk, found, ?_, further, ?_⟩
        · change download.consumed + data.length + (download.remaining - data.length) = _
          omega
        · rw [same, List.append_assoc, ← front]
      counted := counted
      exhausted := by
        intro ended
        have nothing := (accounts.exhausted ended).2
        exact absurd nothing begun }

end Accounts

end Download

end SegmentOffload
