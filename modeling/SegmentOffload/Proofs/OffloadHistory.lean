import SegmentOffload.Proofs.LoadCopies
import SegmentOffload.Proofs.OffloadEffect
import SegmentOffload.Proofs.SegmentFiles

/-!
Whole histories of offloads.

Segment files grow and are offloaded in any order, under any faults of the store and of the disk.
What is carried through a history is that the rows of each segment describe its file from the front
and that the store holds what they describe.  An upload that was stored but never recorded does no
harm: its object lies at a path that no row names, and the next upload that is recorded there
replaces it.
-/

namespace SegmentOffload

open Download (chunkSize)

namespace Offload

/-! ### Rows that mirror a file -/

/-- The store holds the range of a segment's file that a row describes, at the path of that row. -/
structure HoldsRow (host : Host ObjectStore) (segment : Segment) (file : Bytes) (chunk : Chunk) :
    Prop where
  named : chunk.remotePath = segment.chunkPath chunk.modificationCount chunk.logPosition
  plain : NulFree chunk.remotePath
  stored : object? host chunk.remotePath =
    some ((file.drop chunk.startOffset.toNat).take chunk.byteLength.toNat)

/-- The rows of a segment describe its file from the front on, and the store holds what they
describe. -/
structure Mirrors (host : Host ObjectStore) (segment : Segment) (file : Bytes)
    (rows : List Chunk) : Prop where
  consecutive : Consecutive 1 0 rows
  within : chunkSize rows ≤ file.length
  held : ∀ chunk ∈ rows, HoldsRow host segment file chunk

theorem range_of_isPrefix {front whole : Bytes} (grown : front <+: whole) {start length : Nat}
    (within : start + length ≤ front.length) :
    (whole.drop start).take length = (front.drop start).take length := by
  rcases grown with ⟨more, same⟩
  rw [← same, List.drop_append_of_le_length (by omega), List.take_append_of_le_length]
  rw [List.length_drop]
  omega

namespace Mirrors

variable {host later : Host ObjectStore} {segment : Segment} {file grown : Bytes}
  {rows : List Chunk}

theorem nil (host : Host ObjectStore) (segment : Segment) (file : Bytes) :
    Mirrors host segment file [] where
  consecutive := trivial
  within := Nat.zero_le _
  held := by
    intro chunk impossible
    cases impossible

theorem mono (mirrors : Mirrors host segment file rows) (growth : file <+: grown)
    (same : ∀ chunk ∈ rows, object? later chunk.remotePath = object? host chunk.remotePath) :
    Mirrors later segment grown rows where
  consecutive := mirrors.consecutive
  within := Nat.le_trans mirrors.within growth.length_le
  held := by
    intro chunk listed
    have holds := mirrors.held chunk listed
    have range := (mirrors.consecutive.range_mem listed).2
    have within := mirrors.within
    refine ⟨holds.named, holds.plain, ?_⟩
    rw [same chunk listed, holds.stored, range_of_isPrefix growth (by omega)]

theorem append_singleton (mirrors : Mirrors host segment file rows) {chunk : Chunk}
    (count : chunk.modificationCount.toNat = 1 + rows.length)
    (starts : chunk.startOffset.toNat = chunkSize rows) (filled : 0 < chunk.byteLength.toNat)
    (within : chunkSize rows + chunk.byteLength.toNat ≤ file.length)
    (holds : HoldsRow host segment file chunk) :
    Mirrors host segment file (rows ++ [chunk]) where
  consecutive := by
    apply mirrors.consecutive.append_singleton count
    · rw [starts, Nat.zero_add]
    · exact filled
  within := by
    rw [Download.chunkSize_append]
    exact within
  held := by
    intro other listed
    rcases List.mem_append.mp listed with earlier | last
    · exact mirrors.held other earlier
    · rw [List.mem_singleton.mp last]
      exact holds

/-- The path of a chunk that comes next is the path of no row, of whatever segment. -/
theorem path_ne_next (mirrors : Mirrors host segment file rows) {other : Segment}
    {count position : UInt64} (next : segment = other → count.toNat = 1 + rows.length)
    {chunk : Chunk} (listed : chunk ∈ rows) :
    chunk.remotePath ≠ other.chunkPath count position := by
  intro same
  rw [(mirrors.held chunk listed).named] at same
  rcases chunkPath_injective same with ⟨sameSegment, sameCount, _⟩
  have bounds := (mirrors.consecutive.modificationCount_mem listed).2
  rw [sameCount, next sameSegment] at bounds
  exact absurd bounds (Nat.lt_irrefl _)

end Mirrors

/-! ### Histories -/

/-- How the connections and the calls on the disk go that lie ahead. -/
structure Weather where
  faults : List Fault
  isStopped : Bool
  turns : List Wire.Turn

def Weather.on (weather : Weather) (host : Host ObjectStore) : Host ObjectStore :=
  let network := host.client.network
  let peer := { network.peer with faults := weather.faults, isStopped := weather.isStopped }
  { client := { host.client with network := { network with peer } }
    disk := { host.disk with turns := weather.turns } }

theorem isPresent_on (weather : Weather) (host : Host ObjectStore) (path : String) :
    (weather.on host).disk.isPresent path = host.disk.isPresent path := by
  change Disk.isPresent { host.disk with turns := weather.turns } path = _
  rw [Disk.isPresent, Disk.stat_turns, Disk.isPresent]

inductive Event where
  /-- Somebody adds bytes to the file of a segment. -/
  | append (segment : Segment) (data : Bytes)
  | offload (config : ClientConfig) (segment : Segment) (logPosition : UInt64) (weather : Weather)

/-- What the store needs in order to understand an event. -/
def Event.IsUnderstood : Event → Prop
  | append _ _ => True
  | offload config segment logPosition _ => UnderstandsOffload config segment logPosition

/-- A catalog, and the host that it belongs to. -/
structure Site where
  catalog : Catalog
  host : Host ObjectStore

namespace Site

def start (catalogPath : String) (disk : Disk) : Site where
  catalog := ⟨catalogPath, []⟩
  host := ⟨⟨⟨ObjectStore.empty, []⟩, []⟩, disk⟩

def file (paths : Segment → String) (site : Site) (segment : Segment) : Bytes :=
  site.host.disk.fileBytes (paths segment)

def step (paths : Segment → String) (site : Site) : Event → Site
  | .append segment data =>
    { site with host :=
      { site.host with disk := site.host.disk.extend (paths segment) data } }
  | .offload config segment logPosition weather =>
    let offloaded := offloadAndRecord config site.catalog segment logPosition (paths segment)
      (weather.on site.host)
    ⟨offloaded.2.1, offloaded.2.2⟩

def run (paths : Segment → String) (site : Site) (events : List Event) : Site :=
  events.foldl (step paths) site

variable {paths : Segment → String} {site : Site}

/-! ### One event -/

/-- Connections are matched, and no segment's file is where the catalog's file is. -/
structure Settled (paths : Segment → String) (site : Site) : Prop where
  matched : Matched site.host
  apart : ∀ segment,
    site.host.disk.place (paths segment) ≠ site.host.disk.place site.catalog.path

theorem Settled.on (settled : Settled paths site) (weather : Weather) :
    Matched (weather.on site.host) :=
  ⟨settled.matched.matched, rfl⟩

theorem file_on (weather : Weather) (segment : Segment) :
    (weather.on site.host).disk.fileBytes (paths segment) = site.file paths segment :=
  site.host.disk.fileBytes_turns _ _

theorem step_offload (settled : Settled paths site) {config : ClientConfig} {segment : Segment}
    {logPosition : UInt64} (understood : UnderstandsOffload config segment logPosition)
    (weather : Weather) :
    let later := site.step paths (.offload config segment logPosition weather)
    later.host = weather.on site.host ∧ later.catalog = site.catalog ∨
      ∃ alreadyOffloaded modificationCount,
        nextChunk site.catalog segment = .ok (alreadyOffloaded, modificationCount) ∧
        ChangesAt (site.host.disk.place site.catalog.path)
          (segment.chunkPath modificationCount logPosition) (weather.on site.host) later.host ∧
        (later.catalog = site.catalog ∨
          ∃ content, Records config segment modificationCount logPosition alreadyOffloaded
            (paths segment) site.catalog later.catalog (weather.on site.host) later.host content) :=
  offloadAndRecord_spec understood (settled.on weather) rfl

/-- An event leaves a settled site settled and takes nothing back from any file. -/
theorem settled_step (settled : Settled paths site) {event : Event}
    (understood : event.IsUnderstood) :
    Settled paths (site.step paths event) ∧
      ∀ segment, site.file paths segment <+: (site.step paths event).file paths segment := by
  cases event with
  | append segment data =>
    rcases site.host.disk.extend_spec (paths segment) data with ⟨working, longer⟩
    have place : ∀ path, (site.host.disk.extend (paths segment) data).place path =
        site.host.disk.place path := by
      intro path
      rw [Disk.place, Disk.place, Disk.start, Disk.start, working]
    constructor
    · constructor
      · exact settled.matched
      · intro other
        change (site.host.disk.extend (paths segment) data).place _ ≠
          (site.host.disk.extend (paths segment) data).place _
        rw [place, place]
        exact settled.apart other
    · intro other
      exact longer (paths other)
  | offload config segment logPosition weather =>
    rcases step_offload settled understood weather with
      ⟨sameHost, sameCatalog⟩ | ⟨_, _, _, changes, recorded⟩
    · constructor
      · constructor
        · rw [sameHost]
          exact settled.on weather
        · rw [sameHost, sameCatalog]
          exact settled.apart
      · intro other
        rw [file, file, sameHost, file_on]
        exact List.prefix_rfl
    · have path : (site.step paths (.offload config segment logPosition weather)).catalog.path =
          site.catalog.path := by
        rcases recorded with same | ⟨_, records⟩
        · rw [same]
        · rw [records.rows]
      constructor
      · constructor
        · exact changes.matched
        · intro other
          rw [path, changes.keeps.place, changes.keeps.place]
          exact settled.apart other
      · intro other
        rw [← file_on weather]
        exact changes.keeps.fileBytes_isPrefix (settled.apart other)

/-- The rows of every segment mirror its file. -/
def Mirrored (paths : Segment → String) (site : Site) : Prop :=
  ∀ segment, Mirrors site.host segment (site.file paths segment) (site.catalog.chunksOf segment)

theorem mirrors_record {config : ClientConfig} {segment : Segment}
    {modificationCount logPosition alreadyOffloaded : UInt64} {path : String}
    {catalog after : Catalog} {host later : Host ObjectStore} {content file : Bytes}
    (digest : NulFree segment.relationHash)
    (mirrors : Mirrors later segment file (catalog.chunksOf segment))
    (starts : alreadyOffloaded.toNat = chunkSize (catalog.chunksOf segment))
    (count : modificationCount.toNat = 1 + (catalog.chunksOf segment).length)
    (records : Records config segment modificationCount logPosition alreadyOffloaded path catalog
      after host later content)
    (growth : content <+: file) (fits : content.length < UInt64.size) :
    Mirrors later segment file (after.chunksOf segment) := by
  have further := records.further
  have stored := records.stored
  rw [UInt64.toNat_ofNat_of_lt' fits] at further stored
  have length : (UInt64.ofNat (content.length - alreadyOffloaded.toNat)).toNat =
      content.length - alreadyOffloaded.toNat := UInt64.toNat_ofNat_of_lt' (by omega)
  rw [records.rows, Catalog.chunksOf_append, if_pos rfl, UInt64.toNat_ofNat_of_lt' fits]
  apply mirrors.append_singleton
  · exact count
  · exact starts
  · change 0 < (UInt64.ofNat (content.length - alreadyOffloaded.toNat)).toNat
    omega
  · change _ + (UInt64.ofNat (content.length - alreadyOffloaded.toNat)).toNat ≤ file.length
    have longer := growth.length_le
    omega
  · refine ⟨rfl, nulFree_chunkPath digest modificationCount logPosition, ?_⟩
    change object? later (segment.chunkPath modificationCount logPosition) =
      some ((file.drop alreadyOffloaded.toNat).take
        (UInt64.ofNat (content.length - alreadyOffloaded.toNat)).toNat)
    rw [stored, length, range_of_isPrefix growth (by omega)]

theorem mirrored_step (settled : Settled paths site) (mirrored : Mirrored paths site)
    {event : Event} (understood : event.IsUnderstood)
    (fits : ∀ segment, ((site.step paths event).file paths segment).length < UInt64.size) :
    Mirrored paths (site.step paths event) := by
  have growth := (settled_step settled understood).2
  intro other
  cases event with
  | append segment data =>
    apply (mirrored other).mono (growth other)
    intro chunk _
    rfl
  | offload config segment logPosition weather =>
    rcases step_offload settled understood weather with
      ⟨sameHost, sameCatalog⟩ | ⟨alreadyOffloaded, modificationCount, next, changes, recorded⟩
    · rw [sameCatalog]
      apply (mirrored other).mono (growth other)
      intro chunk _
      rw [sameHost]
      rfl
    · have small : ∀ segment, (site.file paths segment).length < UInt64.size := by
        intro segment
        exact Nat.lt_of_le_of_lt (growth segment).length_le (fits segment)
      rcases nextChunk_of_consecutive (mirrored segment).consecutive
        (Nat.lt_of_le_of_lt (mirrored segment).within (small segment)) next with ⟨starts, count⟩
      -- No row has the path of the chunk that was uploaded, recorded or not.
      have kept := (mirrored other).mono (growth other) fun chunk listed =>
        changes.others _ ((mirrored other).path_ne_next (by
          intro same
          rw [same]
          exact count) listed)
      rcases recorded with sameCatalog | ⟨content, records⟩
      · rw [sameCatalog]
        exact kept
      · by_cases here : segment = other
        · rw [← here] at kept ⊢
          have whole : content = site.file paths segment := by
            rw [← file_on weather, Disk.fileBytes_of_stat records.file]
          apply mirrors_record understood.digest kept starts count records
          · rw [whole]
            exact growth segment
          · rw [whole]
            exact small segment
        · rw [records.rows, Catalog.chunksOf_append, if_neg here, List.append_nil]
          exact kept

/-! ### Any number of events -/

theorem settled_run (settled : Settled paths site) {events : List Event}
    (understood : ∀ event ∈ events, event.IsUnderstood) :
    Settled paths (site.run paths events) ∧
      ∀ segment, site.file paths segment <+: (site.run paths events).file paths segment := by
  induction events generalizing site with
  | nil => exact ⟨settled, fun _ => List.prefix_rfl⟩
  | cons event rest ih =>
    rcases settled_step settled (understood event (List.mem_cons_self ..)) with ⟨first, grown⟩
    rcases ih first fun later listed => understood later (List.mem_cons_of_mem _ listed) with
      ⟨last, further⟩
    exact ⟨last, fun segment => (grown segment).trans (further segment)⟩

theorem mirrored_run (settled : Settled paths site) (mirrored : Mirrored paths site)
    {events : List Event} (understood : ∀ event ∈ events, event.IsUnderstood)
    (fits : ∀ segment, ((site.run paths events).file paths segment).length < UInt64.size) :
    Mirrored paths (site.run paths events) := by
  induction events generalizing site with
  | nil => exact mirrored
  | cons event rest ih =>
    have first := understood event (List.mem_cons_self ..)
    have others : ∀ later ∈ rest, later.IsUnderstood :=
      fun later listed => understood later (List.mem_cons_of_mem _ listed)
    have stepped := (settled_step settled first).1
    have further := (settled_run stepped others).2
    apply ih stepped _ others fits
    -- Files only grow, so a bound on them at the end is one on the way there.
    apply mirrored_step settled mirrored first
    intro segment
    exact Nat.lt_of_le_of_lt (further segment).length_le (fits segment)

theorem settled_start {catalogPath : String} {disk : Disk}
    (apart : ∀ segment, disk.place (paths segment) ≠ disk.place catalogPath) :
    Settled paths (start catalogPath disk) :=
  ⟨⟨rfl, rfl⟩, apart⟩

theorem mirrored_start (paths : Segment → String) (catalogPath : String) (disk : Disk) :
    Mirrored paths (start catalogPath disk) := by
  intro segment
  exact Mirrors.nil _ segment _

theorem load_of_mirrored (settled : Settled paths site) (mirrored : Mirrored paths site)
    {segment : Segment} (fits : (site.file paths segment).length < UInt64.size)
    {config : ClientConfig} (space : NulFree config.tableSpace)
    (within : ∀ chunk ∈ site.catalog.chunksOf segment, ∀ offset < chunk.byteLength.toNat,
      (Download.question config chunk offset).encode.length ≤ Wire.maximumSize)
    {weather : Weather} {destination : String}
    (absent : site.host.disk.isPresent destination = false) {outcome : LoadOutcome}
    {later : Host ObjectStore}
    (loaded : Load.load config site.catalog segment destination (weather.on site.host) =
      (.ok outcome, later)) :
    ∃ reached, site.catalog.offloadedEnd segment = .ok reached ∧
      outcome = .loaded reached.toNat (site.catalog.chunksOf segment).length 0 ∧
      later.disk.stat destination =
        .ok (.file ((site.file paths segment).take reached.toNat)) := by
  have mirrors := mirrored segment
  have small : chunkSize (site.catalog.chunksOf segment) < UInt64.size :=
    Nat.lt_of_le_of_lt mirrors.within fits
  rcases Catalog.offloadedEnd_of_consecutive mirrors.consecutive small with
    ⟨reached, ended, exact⟩
  have plain := fun chunk listed => (mirrors.held chunk listed).plain
  have serves := ObjectStore.servesObjects ⟨space, plain, within⟩
    (weather.on site.host).client.network.peer
  have stored : ∀ chunk ∈ site.catalog.chunksOf segment,
      (weather.on site.host).client.network.peer.content chunk.remotePath =
        ((site.file paths segment).drop chunk.startOffset.toNat).take chunk.byteLength.toNat := by
    intro chunk listed
    change (object? site.host chunk.remotePath).getD [] = _
    rw [(mirrors.held chunk listed).stored, Option.getD_some]
  have missing : (weather.on site.host).disk.isPresent destination = false := by
    rw [isPresent_on]
    exact absent
  rcases Load.load_of_consecutive serves mirrors.consecutive stored mirrors.within fits
    ⟨(settled.on weather).matched, rfl⟩ missing loaded with ⟨same, found⟩
  refine ⟨reached, ended, ?_, ?_⟩
  · rw [same, exact]
  · rw [found, exact]

/-- Segment files grow and are offloaded in any order and under any faults.  After any such history
the rows of each segment describe its file from the front, in order and without gaps, and the store
holds exactly what they describe; an offload that fails changes no row; and a load that goes well
leaves exactly the front of the file that was offloaded. -/
theorem offloads_round_trip {catalogPath : String} {disk : Disk}
    (apart : ∀ segment, disk.place (paths segment) ≠ disk.place catalogPath)
    {events : List Event} (understood : ∀ event ∈ events, event.IsUnderstood)
    (fits : ∀ segment,
      (((start catalogPath disk).run paths events).file paths segment).length < UInt64.size) :
    let site := (start catalogPath disk).run paths events
    ∀ segment,
      Mirrors site.host segment (site.file paths segment) (site.catalog.chunksOf segment) ∧
      (∀ config logPosition (weather : Weather) failure after later,
        offloadAndRecord config site.catalog segment logPosition (paths segment)
            (weather.on site.host) = (.error failure, after, later) →
          after = site.catalog) ∧
      ∀ config (weather : Weather) destination outcome later,
        NulFree config.tableSpace →
        (∀ chunk ∈ site.catalog.chunksOf segment, ∀ offset < chunk.byteLength.toNat,
          (Download.question config chunk offset).encode.length ≤ Wire.maximumSize) →
        site.host.disk.isPresent destination = false →
        Load.load config site.catalog segment destination (weather.on site.host) =
          (.ok outcome, later) →
        ∃ reached, site.catalog.offloadedEnd segment = .ok reached ∧
          outcome = .loaded reached.toNat (site.catalog.chunksOf segment).length 0 ∧
          later.disk.stat destination =
            .ok (.file ((site.file paths segment).take reached.toNat)) := by
  intro site segment
  have begun := settled_start apart
  have settled := (settled_run begun understood).1
  have mirrored := mirrored_run begun (mirrored_start paths catalogPath disk) understood fits
  refine ⟨mirrored segment, ?_, ?_⟩
  · intro config logPosition weather failure after later failed
    exact catalog_of_failed_offload failed
  · intro config weather destination outcome later space within absent loaded
    exact load_of_mirrored settled mirrored (fits segment) space within absent loaded

/-! ### A history with failures -/

def mainSegment : Segment := ⟨0, 1663, 5, "d41d8cd9", 16384, 0⟩

def twoFiles (segment : Segment) : String :=
  if segment.relfilenode = 16384 then "/main" else "/side"

def smallPieces : ClientConfig := { Download.socketConfig with readBufferSize := 2 }

def calm : Weather := ⟨[], false, []⟩

/-- One upload breaks off, one is stored without being recorded, one is stored without being
acknowledged and one finds no store, before one goes well and the file grows again. -/
def troubledHistory : List Event :=
  [.append mainSegment [1, 2, 3],
    .offload smallPieces mainSegment 0 { calm with faults := [.dropAfter 2] },
    .offload smallPieces mainSegment 0 { calm with turns := [.upTo 1, .upTo 2, .fail .notFound] },
    .offload smallPieces mainSegment 7 { calm with faults := [.wrongReply] },
    .offload smallPieces mainSegment 0 { calm with isStopped := true },
    .offload smallPieces mainSegment 0 calm,
    .append mainSegment [4, 5]]

def troubledSite : Site :=
  (start "/catalog" Download.socketDisk).run twoFiles troubledHistory

def mainChunk : Chunk := describedChunk smallPieces mainSegment 1 0 0 3

theorem isUnderstood_troubledHistory : ∀ event ∈ troubledHistory, event.IsUnderstood := by
  have understood : ∀ logPosition, UnderstandsOffload smallPieces mainSegment logPosition := by
    apply understandsOffload_of_short
    · decide +kernel
    · decide +kernel
    · decide +kernel
    · decide +kernel
    · decide +kernel
  intro event listed
  simp only [troubledHistory, List.mem_cons, List.not_mem_nil, or_false] at listed
  rcases listed with same | same | same | same | same | same | same
  all_goals rw [same]
  · trivial
  · exact understood 0
  · exact understood 0
  · exact understood 7
  · exact understood 0
  · exact understood 0
  · trivial

theorem evaluate_troubledSite :
    troubledSite.catalog.chunksOf mainSegment = [mainChunk] ∧
      troubledSite.host.disk.fileBytes "/main" = [1, 2, 3, 4, 5] ∧
      troubledSite.host.disk.fileBytes "/side" = [] ∧
      troubledSite.host.disk.isPresent "/copy" = false ∧
      (Load.copy smallPieces mainSegment "/copy" ⟨[mainChunk], []⟩ 3
        (calm.on troubledSite.host)).1.toOption = some (.loaded 3 1 0) := by
  decide +kernel

theorem load_troubledSite :
    ∃ later, Load.load smallPieces troubledSite.catalog mainSegment "/copy"
      (calm.on troubledSite.host) = (.ok (.loaded 3 1 0), later) := by
  rcases evaluate_troubledSite with ⟨rows, _, _, absent, copied⟩
  -- What is known of the site suffices from here on; it is not evaluated again.
  generalize troubledSite = site at rows absent copied ⊢
  have consecutive : Consecutive 1 0 (site.catalog.chunksOf mainSegment) := by
    rw [rows]
    exact ⟨rfl, rfl, by decide +kernel, trivial⟩
  have size : chunkSize (site.catalog.chunksOf mainSegment) = 3 := by
    rw [rows]
    decide +kernel
  have small : chunkSize (site.catalog.chunksOf mainSegment) < UInt64.size := by
    rw [size]
    decide
  have missing : (calm.on site.host).disk.isPresent "/copy" = false := by
    rw [isPresent_on]
    exact absent
  rcases Load.load_eq_copy consecutive small missing with ⟨total, promised, same⟩
  have three : total = 3 := by
    apply UInt64.toNat_inj.mp
    rw [promised, size]
    rfl
  rw [rows, three] at same
  rw [← same] at copied
  cases loaded : Load.load smallPieces site.catalog mainSegment "/copy" (calm.on site.host) with
  | mk result later =>
    rw [loaded] at copied
    cases result with
    | error failure => cases copied
    | ok outcome =>
      cases copied
      exact ⟨later, rfl⟩

/-- The load leaves the three bytes that were offloaded, and not the two that came later. -/
theorem offloads_round_trip_of_troubledHistory :
    Mirrors troubledSite.host mainSegment [1, 2, 3, 4, 5] [mainChunk] ∧
      ∃ later, Load.load smallPieces troubledSite.catalog mainSegment "/copy"
          (calm.on troubledSite.host) = (.ok (.loaded 3 1 0), later) ∧
        later.disk.stat "/copy" = .ok (.file [1, 2, 3]) := by
  rcases evaluate_troubledSite with ⟨rows, main, side, absent, _⟩
  have apart : ∀ segment,
      Download.socketDisk.place (twoFiles segment) ≠ Download.socketDisk.place "/catalog" := by
    intro segment
    unfold twoFiles
    split
    · decide +kernel
    · decide +kernel
  have fits : ∀ segment, (troubledSite.file twoFiles segment).length < UInt64.size := by
    intro segment
    unfold file twoFiles
    split
    · rw [main]
      decide
    · rw [side]
      decide
  have bytes : troubledSite.file twoFiles mainSegment = [1, 2, 3, 4, 5] := main
  have made : (start "/catalog" Download.socketDisk).run twoFiles troubledHistory =
      troubledSite := rfl
  have round := offloads_round_trip apart isUnderstood_troubledHistory fits mainSegment
  rw [made] at round
  rcases round with ⟨mirrors, _, whole⟩
  rw [rows] at mirrors whole
  rw [bytes] at mirrors
  have space : NulFree smallPieces.tableSpace := by decide +kernel
  have within : ∀ chunk ∈ [mainChunk], ∀ offset < chunk.byteLength.toNat,
      (Download.question smallPieces chunk offset).encode.length ≤ Wire.maximumSize := by
    decide +kernel
  rcases load_troubledSite with ⟨later, loaded⟩
  rcases whole smallPieces calm "/copy" _ later space within absent loaded with
    ⟨reached, _, counted, found⟩
  have all : reached.toNat = 3 := (LoadOutcome.loaded.inj counted).1.symm
  rw [bytes, all] at found
  exact ⟨mirrors, later, loaded, found⟩

end Site

end Offload

end SegmentOffload
