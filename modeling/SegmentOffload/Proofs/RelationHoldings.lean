import Mathlib.Algebra.Order.BigOperators.Group.List
import Mathlib.Algebra.Order.Group.Nat
import SegmentOffload.Proofs.Delivery
import SegmentOffload.Proofs.RelationPaths
import SegmentOffload.Proofs.SegmentRows
import SegmentOffload.Proofs.StoreRequests

/-!
What a store of chunks holds of a relation, and what is left of it.

Listings and removals name objects by the front of their paths.  When every object is a chunk and all
digests are of one length, the front that belongs to a relation, or to a segment, is shared by its own
chunks and by no others; so these requests reach what they are meant for, all of it and nothing
else.
-/

namespace SegmentOffload

open Wire (Message ObjectMeta)

/-- A chunk in a store, with the segment file that it belongs to. -/
structure StoredChunk where
  segment : Segment
  modificationCount : UInt64
  logPosition : UInt64
  data : Bytes
deriving DecidableEq, Repr

namespace StoredChunk

def path (record : StoredChunk) : String :=
  record.segment.chunkPath record.modificationCount record.logPosition

def object (record : StoredChunk) : String × Bytes :=
  (record.path, record.data)

/-- What a listing says of the chunk. -/
def entry (record : StoredChunk) : ObjectMeta :=
  ⟨record.path, UInt64.ofNat record.data.length⟩

end StoredChunk

/-- A store without faults ahead whose objects are the given chunks, and a client in step with it. -/
structure Stocked (records : List StoredChunk) (network : Network ObjectStore) : Prop
    extends ObjectStore.Steady network where
  objects : network.peer.objects = records.map StoredChunk.object
  ordered : records.Pairwise fun earlier later => earlier.path < later.path
  cuts : 0 < network.peer.fragmentSize

namespace Stocked

variable {records kept : List StoredChunk} {network later : Network ObjectStore}

theorem becomes (stocked : Stocked records network) (fewer : kept.Sublist records)
    (becomes : ObjectStore.Becomes (kept.map StoredChunk.object) network later) :
    Stocked kept later where
  toSteady := becomes.steady stocked.toSteady
  objects := becomes.objects_eq
  ordered := stocked.ordered.sublist fewer
  cuts := by
    obtain ⟨_, _, _, same⟩ := becomes
    rw [same]
    exact stocked.cuts

/-- The front of a path that marks some chunks: their paths begin so, and no others do. -/
def Marks (start : String) (own : StoredChunk → Bool) (records : List StoredChunk) : Prop :=
  ∀ record ∈ records, beginsWith start record.path = own record

variable {start : String} {own : StoredChunk → Bool}

theorem listing_eq (stocked : Stocked records network) (marks : Marks start own records) :
    network.peer.listing start = (records.filter own).map StoredChunk.entry := by
  have same : (records.filter fun record => beginsWith start record.path) = records.filter own :=
    List.filter_congr marks
  rw [ObjectStore.listing, stocked.objects, List.filter_map, List.map_map, ← same]
  rfl

theorem leftBy_garbage (marks : Marks start own records) (config : ClientConfig)
    (index : UInt32) (confirm : Bool) :
    ObjectStore.leftBy ((RemovalMode.garbage index confirm).request config start)
        (records.map StoredChunk.object) =
      (if confirm then records.filter fun record => !own record else records).map
        StoredChunk.object := by
  cases confirm with
  | false => rfl
  | true =>
    have same : (records.filter fun record => !beginsWith start record.path) =
        records.filter fun record => !own record := by
      apply List.filter_congr
      intro record listed
      rw [marks record listed]
    rw [if_pos rfl, ← same]
    exact List.filter_map

theorem leftBy_direct (config : ClientConfig) (remotePath : String) :
    ObjectStore.leftBy (RemovalMode.direct.request config remotePath)
        (records.map StoredChunk.object) =
      (records.filter fun record => record.path ≠ remotePath).map StoredChunk.object := by
  have same : (records.filter fun record => !decide (record.path = remotePath)) =
      records.filter fun record => record.path ≠ remotePath := by
    apply List.filter_congr
    intro record _
    rw [decide_not]
  rw [← same]
  exact List.filter_map

end Stocked

namespace Holdings

/-! ### Frames -/

theorem length_encode_delete (request : Wire.DeleteRequest) :
    (Message.delete request).encode.length = (textBytes request.remotePath).length + 29 := by
  rw [Message.length_encode, Wire.headerSize]
  simp only [Message.body, List.length_append, Wire.length_textField, length_wordBytes]
  omega

theorem length_namespacePath (index : UInt32) :
    (textBytes (namespacePath index)).length =
      17 + (textBytes (decimal index.toNat)).length + 24 := by
  have outer : (textBytes "/segments_005/seg").length = 17 := by decide +kernel
  have inner : (textBytes "/basebackups_005/yezzey/").length = 24 := by decide +kernel
  unfold namespacePath
  simp only [textBytes_append, List.length_append, outer, inner]

theorem length_vacuum_namespacePath_le (config : ClientConfig) (index : UInt32) (confirm : Bool) :
    (Message.delete ((RemovalMode.garbage index confirm).request config
      (namespacePath index))).encode.length ≤ Wire.maximumSize := by
  have path : ((RemovalMode.garbage index confirm).request config
      (namespacePath index)).remotePath = namespacePath index := rfl
  have number := length_textBytes_word_le index.toUInt64
  rw [UInt32.toNat_toUInt64] at number
  have room : 90 ≤ Wire.maximumSize := by decide
  apply Nat.le_trans _ room
  rw [length_encode_delete, path, length_namespacePath]
  omega

variable {config : ClientConfig} {disk : Disk} {client : Client ObjectStore}
  {records : List StoredChunk} {segment : Segment}

/-- Every frame that a request for the relation, or for a chunk of the store, takes is small
enough. -/
structure FramesFit (config : ClientConfig) (segment : Segment) (records : List StoredChunk)
    (network : Network ObjectStore) : Prop where
  listing : (Message.list segment.relationPath).encode.length ≤ Wire.maximumSize
  parts : ∀ part ∈ network.peer.fragments segment.relationPath,
    (Message.objectMeta part).encode.length ≤ Wire.maximumSize
  vacuum : ∀ confirm, (Message.delete ((RemovalMode.garbage segment.segmentIndex confirm).request
    config segment.relationPath)).encode.length ≤ Wire.maximumSize
  removals : ∀ record ∈ records,
    (Message.delete (RemovalMode.direct.request config record.path)).encode.length ≤
      Wire.maximumSize

/-! ### One request -/

variable {start : String} {own : StoredChunk → Bool}

theorem vacuumPath_spec (stocked : Stocked records client.network)
    (reachable : disk.reachSocket config.socketPath = .ok ())
    (marks : Stocked.Marks start own records) (free : NulFree start) (index : UInt32)
    (confirm : Bool)
    (within : (Message.delete ((RemovalMode.garbage index confirm).request config
      start)).encode.length ≤ Wire.maximumSize) :
    ∃ network, vacuumPath config index confirm start disk client =
        (.ok (), { client with network }) ∧
      Stocked (if confirm then records.filter fun record => !own record else records)
        network := by
  obtain ⟨network, removed, becomes⟩ :=
    ObjectStore.remove_spec stocked.toSteady reachable (.garbage index confirm) free within
  rw [stocked.objects, Stocked.leftBy_garbage marks] at becomes
  refine ⟨network, ?_, stocked.becomes ?_ becomes⟩
  · rw [vacuumPath, remarked, removed]
    rfl
  · cases confirm with
    | false => exact List.Sublist.refl records
    | true => exact List.filter_sublist

theorem deleteChunk_spec (stocked : Stocked records client.network)
    (reachable : disk.reachSocket config.socketPath = .ok ()) {remotePath : String}
    (free : NulFree remotePath)
    (within : (Message.delete (RemovalMode.direct.request config remotePath)).encode.length ≤
      Wire.maximumSize) :
    ∃ network, deleteChunk config remotePath disk client = (.ok (), { client with network }) ∧
      Stocked (records.filter fun record => record.path ≠ remotePath) network := by
  obtain ⟨network, removed, becomes⟩ :=
    ObjectStore.remove_spec stocked.toSteady reachable .direct free within
  rw [stocked.objects, Stocked.leftBy_direct] at becomes
  refine ⟨network, ?_, stocked.becomes List.filter_sublist becomes⟩
  rw [deleteChunk, remarked, removed]
  rfl

theorem listChunks_spec (stocked : Stocked records client.network)
    (reachable : disk.reachSocket config.socketPath = .ok ())
    (marks : Stocked.Marks segment.relationPath own records)
    (digest : NulFree segment.relationHash) (plain : ∀ record ∈ records, NulFree record.path)
    (frames : FramesFit config segment records client.network) :
    ∃ network, listChunks config segment disk client =
        (.ok ((records.filter own).map StoredChunk.entry), { client with network }) ∧
      Stocked records network := by
  have listing := stocked.listing_eq marks
  have named : ∀ entry ∈ client.network.peer.listing segment.relationPath, NulFree entry.path := by
    intro entry listed
    rw [listing] at listed
    obtain ⟨record, kept, same⟩ := List.mem_map.mp listed
    rw [← same]
    exact plain record (List.mem_of_mem_filter kept)
  obtain ⟨network, given, becomes⟩ := ObjectStore.list_spec stocked.toSteady reachable stocked.cuts
    (nulFree_relationPath digest) frames.listing named frames.parts
  rw [stocked.objects] at becomes
  refine ⟨network, ?_, stocked.becomes (List.Sublist.refl records) becomes⟩
  rw [listChunks, remarked, given, listing]
  rfl

theorem stat_of_listChunks {later : Client ObjectStore} {held : List StoredChunk}
    (listed : listChunks config segment disk client = (.ok (held.map StoredChunk.entry), later))
    (fits : (held.map fun record => record.data.length).sum < UInt64.size) :
    ∃ externalBytes, stat config segment disk client =
        (.ok ⟨externalBytes, held.map StoredChunk.entry⟩, later) ∧
      externalBytes.toNat = (held.map fun record => record.data.length).sum := by
  have sizes : ((held.map StoredChunk.entry).map ObjectMeta.size).map UInt64.toNat =
      held.map fun record => record.data.length := by
    rw [List.map_map, List.map_map]
    apply List.map_congr_left
    intro record inside
    have part : record.data.length ≤ (held.map fun record => record.data.length).sum :=
      List.le_sum_of_mem (List.mem_map_of_mem inside)
    exact UInt64.toNat_ofNat_of_lt (Nat.lt_of_le_of_lt part fits)
  have within : (0 : UInt64).toNat +
      (((held.map StoredChunk.entry).map ObjectMeta.size).map UInt64.toNat).sum < UInt64.size := by
    rw [sizes, UInt64.toNat_zero, Nat.zero_add]
    exact fits
  obtain ⟨externalBytes, summed, same⟩ := sumWordsFrom_of_fits within
  refine ⟨externalBytes, ?_, ?_⟩
  · rw [stat, listed]
    simp only [sumWords, summed]
  · rw [same, sizes, UInt64.toNat_zero, Nat.zero_add]

/-! ### Requests for a relation and for a segment -/

theorem marks_relationPath
    (lengths : ∀ record ∈ records, SameLength segment.relationHash record.segment.relationHash) :
    Stocked.Marks segment.relationPath (fun record => segment.SameRelation record.segment)
      records := by
  intro record listed
  rw [Bool.eq_iff_iff, decide_eq_true_iff]
  exact Segment.beginsWith_relationPath_iff (lengths record listed) _ _

theorem marks_namespacePath (index : UInt32) (records : List StoredChunk) :
    Stocked.Marks (namespacePath index) (fun record => record.segment.segmentIndex = index)
      records := by
  intro record _
  rw [Bool.eq_iff_iff, decide_eq_true_iff]
  exact Segment.beginsWith_namespacePath_iff index record.segment _ _

/-- At a store of chunks whose digests are of one length, a relation is listed and measured whole and
alone, a vacuum removes what lies below its path and nothing else, and a chunk is removed alone. -/
theorem requests_reach_their_own_only (stocked : Stocked records client.network)
    (reachable : disk.reachSocket config.socketPath = .ok ())
    (digest : NulFree segment.relationHash)
    (digests : ∀ record ∈ records, NulFree record.segment.relationHash)
    (lengths : ∀ record ∈ records, SameLength segment.relationHash record.segment.relationHash)
    (frames : FramesFit config segment records client.network) :
    let own := records.filter fun record => segment.SameRelation record.segment
    (∃ network, listChunks config segment disk client =
        (.ok (own.map StoredChunk.entry), { client with network }) ∧ Stocked records network) ∧
    (own.map StoredChunk.entry).Pairwise (fun earlier later => earlier.path < later.path) ∧
    ((own.map fun record => record.data.length).sum < UInt64.size →
      ∃ externalBytes network, stat config segment disk client =
          (.ok ⟨externalBytes, own.map StoredChunk.entry⟩, { client with network }) ∧
        externalBytes.toNat = (own.map fun record => record.data.length).sum ∧
        Stocked records network) ∧
    (∀ confirm, ∃ network, vacuumRelation config segment confirm disk client =
        (.ok (), { client with network }) ∧
      Stocked (if confirm then records.filter fun record => ¬ segment.SameRelation record.segment
        else records) network) ∧
    (∀ index confirm, ∃ network, vacuum config index confirm disk client =
        (.ok (), { client with network }) ∧
      Stocked (if confirm then records.filter fun record => record.segment.segmentIndex ≠ index
        else records) network) ∧
    (∀ record ∈ records, ∃ network, deleteChunk config record.path disk client =
        (.ok (), { client with network }) ∧
      Stocked (records.filter fun other => other.path ≠ record.path) network) := by
  intro own
  have plain : ∀ record ∈ records, NulFree record.path := by
    intro record listed
    exact nulFree_chunkPath (digests record listed) _ _
  have marks := marks_relationPath lengths
  obtain ⟨network, listed, kept⟩ := listChunks_spec stocked reachable marks digest plain frames
  refine ⟨⟨network, listed, kept⟩, ?_, ?_, ?_, ?_, ?_⟩
  · exact List.pairwise_map.mpr (stocked.ordered.sublist List.filter_sublist)
  · intro fits
    obtain ⟨externalBytes, measured, same⟩ := stat_of_listChunks listed fits
    exact ⟨externalBytes, network, measured, same, kept⟩
  · intro confirm
    simp only [decide_not]
    exact vacuumPath_spec stocked reachable marks (nulFree_relationPath digest) _ confirm
      (frames.vacuum confirm)
  · intro index confirm
    simp only [ne_eq, decide_not]
    exact vacuumPath_spec stocked reachable (marks_namespacePath index records)
      (nulFree_namespacePath index) index confirm
      (length_vacuum_namespacePath_le config index confirm)
  · intro record listed
    exact deleteChunk_spec stocked reachable (plain record listed) (frames.removals record listed)

/-- Chunks of relations that differ only in a number that is, as a text, the front of another. -/
def neighbours : List StoredChunk :=
  [⟨⟨1, 5, 51, "aa", 7, 0⟩, 1, 0, [1]⟩, ⟨⟨1, 5, 5, "aa", 7, 0⟩, 1, 0, [2, 3]⟩,
    ⟨⟨1, 5, 5, "aa", 8, 2⟩, 4, 9, [4]⟩, ⟨⟨12, 5, 5, "aa", 7, 0⟩, 1, 0, [5]⟩]

def neighbourStore : ObjectStore :=
  { ObjectStore.empty with objects := neighbours.map StoredChunk.object }

theorem requests_reach_their_own_only_among_neighbours :
    let network : Network ObjectStore := ⟨neighbourStore, []⟩
    let client : Client ObjectStore := ⟨network, []⟩
    let segment : Segment := ⟨1, 5, 5, "aa", 0, 0⟩
    Stocked neighbours network ∧
    FramesFit Download.socketConfig segment neighbours network ∧
    ∃ later, vacuumRelation Download.socketConfig segment true Download.socketDisk client =
        (.ok (), { client with network := later }) ∧
      Stocked [⟨⟨1, 5, 51, "aa", 7, 0⟩, 1, 0, [1]⟩, ⟨⟨12, 5, 5, "aa", 7, 0⟩, 1, 0, [5]⟩] later := by
  intro network client segment
  have stocked : Stocked neighbours client.network := by
    refine ⟨⟨rfl, rfl, rfl⟩, rfl, ?_, ?_⟩
    · decide +kernel
    · decide
  have reachable : Download.socketDisk.reachSocket Download.socketConfig.socketPath = .ok () := by
    decide +kernel
  have digest : NulFree segment.relationHash := by decide
  have digests : ∀ record ∈ neighbours, NulFree record.segment.relationHash := by decide
  have lengths : ∀ record ∈ neighbours,
      SameLength segment.relationHash record.segment.relationHash := by
    decide +kernel
  have frames : FramesFit Download.socketConfig segment neighbours client.network := by
    constructor
    · decide +kernel
    · decide +kernel
    · decide +kernel
    · decide +kernel
  obtain ⟨_, _, _, vacuumed, _⟩ :=
    requests_reach_their_own_only stocked reachable digest digests lengths frames
  exact ⟨stocked, frames, vacuumed true⟩

end Holdings

end SegmentOffload
