import SegmentOffload.Proofs.StoreAnswers

/-!
Every byte of a download is handed out exactly once.

However a download is called, and however its peer breaks off, what has been handed out is at any
moment the front of what its chunks stand for, no call hands out bytes of two chunks, and a download
that says that it has ended has handed out everything.
-/

namespace SegmentOffload

theorem ServesObjects.filled {π : Type} [Peer π] {objects : String → Bytes} {config : ClientConfig}
    {chunks : List Chunk} {meant : Nat → π → Prop}
    (serves : ServesObjects objects config chunks meant) :
    ServesObjects objects config (chunks.filter fun chunk => !chunk.isEmpty) meant where
  declining := serves.declining
  accepting := serves.accepting
  hearing := by
    intro count peer opening later reached accepted chunk listed
    exact serves.hearing reached accepted chunk (List.mem_of_mem_filter listed)
  answering := by
    intro count peer opening later reached accepted chunk listed
    exact serves.answering reached accepted chunk (List.mem_of_mem_filter listed)
  releasing := serves.releasing

namespace Download

variable {π : Type} [Peer π] {objects : String → Bytes} {config : ClientConfig}
  {chunks : List Chunk} {meant : Nat → π → Prop}

/-! ### Runs -/

/-- A call on a download, with the disk that it finds its socket on. -/
inductive Call where
  | pull (capacity : Nat) (disk : Disk)
  | read (capacity : Nat) (disk : Disk)

namespace Call

def capacity : Call → Nat
  | pull capacity _ => capacity
  | read capacity _ => capacity

def disk : Call → Disk
  | pull _ disk => disk
  | read _ disk => disk

end Call

/-- A download that is being read, with everything it has handed out. -/
structure Reading (π : Type) where
  download : Download
  client : Client π
  handed : Bytes

namespace Reading

def step (reading : Reading π) : Call → Reading π
  | .pull capacity disk =>
    match reading.download.pull capacity disk reading.client with
    | (outcome, download, client) => ⟨download, client, reading.handed ++ pulledBytes outcome⟩
  | .read capacity disk =>
    match reading.download.read capacity disk reading.client with
    | (.ok data, download, client) => ⟨download, client, reading.handed ++ data⟩
    | (.error _, download, client) => ⟨download, client, reading.handed⟩

def run (reading : Reading π) (calls : List Call) : Reading π :=
  calls.foldl step reading

def ofChunks (config : ClientConfig) (chunks : List Chunk) (client : Client π) : Reading π :=
  ⟨Download.ofChunks config chunks, client, []⟩

end Reading

theorem read_cases {capacity : Nat} {disk : Disk} {download later : Download}
    {client after : Client π} {outcome : Except IoError Bytes}
    (took : download.read capacity disk client = (outcome, later, after)) :
    ∃ pulled, download.pull capacity disk client = (pulled, later, after) ∧
      outcome.toOption.getD [] = pulledBytes pulled ∧
      ∀ data, outcome = .ok data →
        pulled = .ok (.bytes data) ∨ (data = [] ∧ pulled = .ok .endOfStream) := by
  unfold read at took
  cases pulled : download.pull capacity disk client with
  | mk result rest =>
    rw [pulled] at took
    match result, took with
    | .ok (.bytes data), took =>
      cases took
      refine ⟨_, rfl, rfl, ?_⟩
      intro other same
      cases same
      exact Or.inl rfl
    | .ok .endOfStream, took =>
      cases took
      refine ⟨_, rfl, rfl, ?_⟩
      intro other same
      cases same
      exact Or.inr ⟨rfl, rfl⟩
    | .error error, took =>
      cases took
      refine ⟨_, rfl, rfl, ?_⟩
      intro other impossible
      cases impossible

theorem step_eq {reading : Reading π} {call : Call} {outcome : Except ClientError Pulled}
    {later : Download} {after : Client π}
    (pulled : reading.download.pull call.capacity call.disk reading.client =
      (outcome, later, after)) :
    reading.step call = ⟨later, after, reading.handed ++ pulledBytes outcome⟩ := by
  cases call with
  | pull capacity disk =>
    change reading.download.pull capacity disk reading.client = _ at pulled
    simp only [Reading.step, pulled]
  | read capacity disk =>
    change reading.download.pull capacity disk reading.client = _ at pulled
    cases took : reading.download.read capacity disk reading.client with
    | mk result rest =>
      obtain ⟨_, same, bytes, _⟩ := read_cases took
      cases pulled.symm.trans same
      cases result with
      | ok data =>
        simp only [Reading.step, took]
        rw [← bytes]
        rfl
      | error error =>
        simp only [Reading.step, took]
        rw [← bytes]
        simp only [Except.toOption, Option.getD_none, List.append_nil]

theorem onTrack_step (serves : ServesObjects objects config chunks meant) {reading : Reading π}
    (track : OnTrack objects config chunks meant reading.handed reading.download reading.client)
    (call : Call) :
    OnTrack objects config chunks meant (reading.step call).handed (reading.step call).download
      (reading.step call).client := by
  cases pulled : reading.download.pull call.capacity call.disk reading.client with
  | mk outcome rest =>
    rw [step_eq pulled]
    exact (pull_isSound serves track pulled).track

theorem onTrack_run (serves : ServesObjects objects config chunks meant) {reading : Reading π}
    (track : OnTrack objects config chunks meant reading.handed reading.download reading.client)
    (calls : List Call) :
    OnTrack objects config chunks meant (reading.run calls).handed (reading.run calls).download
      (reading.run calls).client := by
  induction calls generalizing reading with
  | nil => exact track
  | cons call rest ih => exact ih (onTrack_step serves track call)

/-! ### Exactly once -/

/-- All that chunks stand for has been handed out, and no object fell short of its chunk. -/
structure HandedWhole (objects : String → Bytes) (chunks : List Chunk) (handed : Bytes) : Prop where
  bytes : handed = promisedBytes objects (chunks.filter fun chunk => !chunk.isEmpty)
  size : handed.length = chunkSize chunks
  long : ∀ chunk ∈ chunks, chunk.byteLength.toNat ≤ (objects chunk.remotePath).length

theorem promisedBytes_filter (objects : String → Bytes) (chunks : List Chunk) :
    promisedBytes objects (chunks.filter fun chunk => !chunk.isEmpty) =
      promisedBytes objects chunks := by
  induction chunks with
  | nil => rfl
  | cons chunk rest ih =>
    by_cases empty : chunk.byteLength = 0
    · have dropped : (!chunk.isEmpty) = false := by
        rw [Chunk.isEmpty, empty]
        rfl
      rw [List.filter_cons_of_neg (by rw [dropped]; exact Bool.false_ne_true), ih]
      simp only [promisedBytes, List.flatMap_cons, empty, UInt64.toNat_zero, List.take_zero,
        List.nil_append]
    · have kept : (!chunk.isEmpty) = true := by
        rw [Chunk.isEmpty, Bool.not_eq_true', beq_eq_false_iff_ne]
        exact empty
      rw [List.filter_cons_of_pos (p := fun chunk : Chunk => !chunk.isEmpty) kept]
      exact congrArg ((objects chunk.remotePath).take chunk.byteLength.toNat ++ ·) ih

theorem handedWhole_of_exhausted {handed : Bytes} {download : Download}
    (accounts : Accounts objects config (chunks.filter fun chunk => !chunk.isEmpty) handed download)
    (ended : download.phase = .exhausted) : HandedWhole objects chunks handed := by
  obtain ⟨same, long⟩ := accounts.whole ended
  have allLong : ∀ chunk ∈ chunks, chunk.byteLength.toNat ≤ (objects chunk.remotePath).length := by
    intro chunk listed
    by_cases empty : chunk.byteLength = 0
    · rw [empty]
      exact Nat.zero_le _
    · refine long chunk (List.mem_filter.mpr ⟨listed, ?_⟩)
      rw [Chunk.isEmpty, Bool.not_eq_true', beq_eq_false_iff_ne]
      exact empty
  refine ⟨same, ?_, allLong⟩
  rw [same, promisedBytes_filter, length_promisedBytes allLong]

/-- Whatever calls have been made on a download: the bytes handed out are the front of what its
chunks stand for, counted right; no call hands out more than was asked for or bytes of two chunks;
and a call that says that the download has ended says so only when everything was handed out. -/
theorem handed_out_exactly_once (serves : ServesObjects objects config chunks meant)
    {client : Client π} (reached : Reached meant client.network) (calls : List Call) :
    let filled := chunks.filter fun chunk => !chunk.isEmpty
    let reading := (Reading.ofChunks config chunks client).run calls
    reading.handed <+: promisedBytes objects filled ∧
      reading.handed.length = reading.download.delivered ∧
      ∀ capacity disk later after,
        (∀ data, reading.download.pull capacity disk reading.client =
            (.ok (.bytes data), later, after) →
          data.length ≤ capacity ∧
            (data ≠ [] → LiesWithinChunk objects filled reading.handed data)) ∧
        (∀ data, reading.download.read capacity disk reading.client = (.ok data, later, after) →
          data.length ≤ capacity ∧
            (data ≠ [] → LiesWithinChunk objects filled reading.handed data)) ∧
        (reading.download.pull capacity disk reading.client = (.ok .endOfStream, later, after) →
          HandedWhole objects chunks reading.handed) ∧
        (0 < capacity →
          reading.download.read capacity disk reading.client = (.ok [], later, after) →
          HandedWhole objects chunks reading.handed) := by
  intro filled reading
  have begun : OnTrack objects config filled meant [] (ofChunks config chunks) client := by
    refine ⟨accounts_ofChunks objects config chunks, attached_of_not_streaming reached ?_⟩
    intro session impossible
    cases impossible
  have track : OnTrack objects config filled meant reading.handed reading.download
      reading.client := by
    apply onTrack_run serves.filled
    exact begun
  refine ⟨track.accounts.isPrefix, track.accounts.counted.symm, ?_⟩
  intro capacity disk later after
  refine ⟨?_, ?_, ?_, ?_⟩
  · intro data pulled
    have sound := pull_isSound serves.filled track pulled
    exact ⟨sound.limited, sound.lies⟩
  · intro data took
    obtain ⟨result, pulled, same, _⟩ := read_cases took
    have sound := pull_isSound serves.filled track pulled
    change data = _ at same
    rw [same]
    exact ⟨sound.limited, sound.lies⟩
  · intro pulled
    have sound := pull_isSound serves.filled track pulled
    have whole := handedWhole_of_exhausted sound.track.accounts (sound.ended rfl)
    change HandedWhole objects chunks (reading.handed ++ []) at whole
    rw [List.append_nil] at whole
    exact whole
  · intro positive took
    obtain ⟨result, pulled, same, kinds⟩ := read_cases took
    have sound := pull_isSound serves.filled track pulled
    rcases kinds [] rfl with none | ⟨_, ended⟩
    · exact absurd none (sound.nonempty positive)
    · have whole := handedWhole_of_exhausted sound.track.accounts (sound.ended ended)
      rw [← same] at whole
      change HandedWhole objects chunks (reading.handed ++ []) at whole
      rw [List.append_nil] at whole
      exact whole

/-- A store whose object is longer than the chunk, and whose first connection breaks off. -/
def droppingStore : ObjectStore :=
  { ObjectStore.empty with objects := [("p", [1, 2, 3, 4, 5])], faults := [.dropAfter 3] }

def frontChunk : Chunk := ⟨1, 0, "p", 4, 0, false⟩

def socketDisk : Disk := { Disk.empty with nodes := [(["s"], .socket)] }

def socketConfig : ClientConfig := { ClientConfig.default with socketPath := "/s" }

theorem understandsDownload_frontChunk :
    ObjectStore.UnderstandsDownload socketConfig [frontChunk] := by
  constructor
  · decide
  · decide
  · decide +kernel

/-- The connection breaks off behind the third byte, and the fourth is handed out over another
one. -/
theorem handed_out_exactly_once_over_broken_connection :
    let client : Client ObjectStore := ⟨⟨droppingStore, []⟩, []⟩
    let calls := [Call.pull 2 socketDisk, .read 9 socketDisk, .pull 9 socketDisk]
    let reading := (Reading.ofChunks socketConfig [frontChunk] client).run calls
    reading.handed = [1, 2, 3, 4] ∧
      reading.handed <+: promisedBytes droppingStore.content [frontChunk] ∧
      HandedWhole droppingStore.content [frontChunk] reading.handed := by
  intro client calls reading
  have serves := ObjectStore.servesObjects understandsDownload_frontChunk droppingStore
  have reached : Reached (fun count (later : ObjectStore) =>
      later.lines.length = count ∧ later.objects = droppingStore.objects) client.network :=
    ⟨rfl, rfl⟩
  have exactly := handed_out_exactly_once serves reached calls
  have filled : [frontChunk].filter (fun chunk => !chunk.isEmpty) = [frontChunk] := by decide
  have handed : reading.handed = [1, 2, 3, 4] := by decide +kernel
  have ended : (reading.download.pull 1 socketDisk reading.client).1 = .ok .endOfStream := by
    decide +kernel
  obtain ⟨front, _, kept⟩ := exactly
  rw [filled] at front
  cases pulled : reading.download.pull 1 socketDisk reading.client with
  | mk outcome rest =>
    rw [pulled] at ended
    change outcome = _ at ended
    rw [ended] at pulled
    exact ⟨handed, front, (kept 1 socketDisk rest.1 rest.2).2.2.1 pulled⟩

end Download

end SegmentOffload
