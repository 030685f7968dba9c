import SegmentOffload.Peer.ObjectStore
import SegmentOffload.Proofs.DownloadSteps
import SegmentOffload.Proofs.Wire.Framing

/-!
What the store in memory makes of whole messages.

A client sends one whole message after the other, so a line of the store holds no half message
between them, and each message is served on its own.  Questions leave the objects alone and are
answered by the front of what they ask for; so the store is a peer that serves its objects.
-/

namespace SegmentOffload

open Wire (Message arrivingBytes)

namespace ObjectStore

/-! ### One message at a time -/

theorem serveAll_nil (fuel : Nat) (serving : Serving) (store : ObjectStore) :
    serveAll fuel [] serving store = (⟨[], serving, store⟩, []) := by
  cases fuel with
  | zero => rfl
  | succ fuel =>
    by_cases finished : serving = .finished
    · rw [serveAll, if_pos finished, finished]
      rfl
    · rw [serveAll, if_neg finished]
      rfl

theorem serveAll_encode {message : Message} {serving : Serving} (store : ObjectStore) (fuel : Nat)
    (free : message.IsNulFree) (within : message.encode.length ≤ Wire.maximumSize)
    (listening : serving ≠ .finished) :
    serveAll (fuel + 1) message.encode serving store = (serve message serving store, []) := by
  have below : Wire.maximumSize < UInt64.size := by decide
  have length := message.length_encode
  have declared := message.totalLength_frame (by omega)
  have carried := message.message_frame free (by omega)
  have framed := Wire.readFrame_encode [] within
  rw [List.append_nil] at framed
  rw [serveAll, if_neg listening]
  cases first : Wire.readFrame [.bytes message.encode] with
  | mk outcome arrivals =>
    rw [first] at framed
    simp only at framed
    rw [framed]
    simp only [carried, declared, List.drop_length, serveAll_nil, List.append_nil]

theorem hear_encode {message : Message} {serving : Serving} {store : ObjectStore}
    {connection : Nat} (free : message.IsNulFree)
    (within : message.encode.length ≤ Wire.maximumSize) (listening : serving ≠ .finished)
    (found : store.lines[connection]? = some ⟨[], serving⟩) :
    hear connection message.encode store =
      ((serve message serving store).reaction,
        { (serve message serving store).store with
          lines := (serve message serving store).store.lines.set connection
            ⟨[], (serve message serving store).serving⟩ }) := by
  have served := serveAll_encode store message.encode.length free within listening
  rw [hear, found]
  simp only [List.nil_append, served]

theorem hear_finished {data : Bytes} {store : ObjectStore} {connection : Nat} {buffer : Bytes}
    (found : store.lines[connection]? = some ⟨buffer, .finished⟩) :
    hear connection data store =
      (⟨[], true⟩, { store with lines := store.lines.set connection ⟨[], .finished⟩ }) := by
  rw [hear, found]
  simp only [serveAll, if_true]
  rfl

theorem lines_serve (message : Message) (serving : Serving) (store : ObjectStore) :
    (serve message serving store).store.lines = store.lines := by
  cases serving with
  | opening fault =>
    cases message with
    | cat request =>
      simp only [serve, serveOpening]
      split <;> rfl
    | _ => rfl
  | uploading request received fault =>
    cases message with
    | copyData data =>
      simp only [serve, serveUpload]
      split <;> rfl
    | _ => rfl
  | removing request fault =>
    cases message with
    | commandComplete =>
      simp only [serve, serveRemoval, remove]
      split <;> rfl
    | _ => rfl
  | finished => rfl

/-! ### Connections -/

/-- How the store takes up a connection with the fault that comes next. -/
def firstServing (fault : Option Fault) : Serving :=
  if fault = some .hangUp then .finished else .opening fault

theorem firstServing_eq_opening {fault : Option Fault}
    (listening : firstServing fault ≠ .finished) : firstServing fault = .opening fault := by
  by_cases hangsUp : fault = some .hangUp
  · rw [firstServing, if_pos hangsUp] at listening
    exact absurd rfl listening
  · exact if_neg hangsUp

theorem accept_eq_ok {store later : ObjectStore} {opening : Opening}
    (accepted : store.accept = (.ok opening, later)) :
    opening.turns = [] ∧ opening.reaction.arrivals = [] ∧
      opening.reaction.hangsUp = decide (firstServing store.faults.head? = .finished) ∧
      later = { store with
        faults := store.faults.drop 1
        lines := store.lines ++ [⟨[], firstServing store.faults.head?⟩] } := by
  unfold accept at accepted
  split at accepted
  · cases accepted
  · cases accepted
    exact ⟨rfl, rfl, rfl, rfl⟩

theorem accept_eq_error {store later : ObjectStore} {error : IoError}
    (declined : store.accept = (.error error, later)) : later = store := by
  unfold accept at declined
  split at declined
  · cases declined
    rfl
  · cases declined

/-! ### Questions -/

/-- The objects of a store, where a missing one has no bytes. -/
def content (store : ObjectStore) (path : String) : Bytes :=
  (store.object? path).getD []

theorem content_eq_of_objects {store other : ObjectStore} (same : store.objects = other.objects)
    (path : String) : store.content path = other.content path := by
  rw [content, content, object?, object?, same]

theorem arrivingBytes_reaction (service : Service) :
    arrivingBytes service.reaction.arrivals = service.replies.flatten := by
  simp only [Service.reaction]
  induction service.replies with
  | nil => rfl
  | cons reply rest ih =>
    cases reply with
    | nil => exact ih
    | cons byte more => exact congrArg (byte :: more ++ ·) ih

theorem streamed_isPrefix (object : Bytes) (request : Wire.CatRequest) (fault : Option Fault) :
    streamed object request fault <+: object.drop request.startOffset.toNat := by
  unfold streamed
  split
  · exact List.take_prefix _ _
  · exact List.prefix_rfl

/-- A question leaves the objects as they are, and its answer is the front of what was asked
for. -/
theorem serve_cat (request : Wire.CatRequest) (fault : Option Fault) (store : ObjectStore) :
    (serve (.cat request) (.opening fault) store).store.objects = store.objects ∧
      (serve (.cat request) (.opening fault) store).replies.flatten <+:
        (store.content request.remotePath).drop request.startOffset.toNat := by
  simp only [serve, serveOpening]
  split
  · exact ⟨rfl, List.nil_prefix⟩
  · rename_i object found
    refine ⟨rfl, ?_⟩
    have same : store.content request.remotePath = object := by
      change store.object? request.remotePath = some object at found
      rw [content, found, Option.getD_some]
    rw [same, List.flatten_cons, List.flatten_nil, List.append_nil]
    exact streamed_isPrefix object request fault

/-- What it takes for the store to understand a download's questions. -/
structure UnderstandsDownload (config : ClientConfig) (chunks : List Chunk) : Prop where
  space : NulFree config.tableSpace
  paths : ∀ chunk ∈ chunks, NulFree chunk.remotePath
  within : ∀ chunk ∈ chunks, ∀ offset < chunk.byteLength.toNat,
    (Download.question config chunk offset).encode.length ≤ Wire.maximumSize

theorem isNulFree_question {config : ClientConfig} {chunk : Chunk} (offset : Nat)
    (path : NulFree chunk.remotePath) (space : NulFree config.tableSpace) :
    (Download.question config chunk offset).IsNulFree := by
  refine ⟨path, ?_⟩
  intro setting listed
  cases List.mem_singleton.mp listed
  exact ⟨by change NulFree "TableSpace"; decide, space⟩

theorem hear_question {config : ClientConfig} {chunks : List Chunk}
    (understands : UnderstandsDownload config chunks) {store : ObjectStore} {fault : Option Fault}
    {connection : Nat} (found : store.lines[connection]? = some ⟨[], firstServing fault⟩)
    {chunk : Chunk} (listed : chunk ∈ chunks) {offset : Nat}
    (inside : offset < chunk.byteLength.toNat) :
    let heard := hear connection (Download.question config chunk offset).encode store
    heard.2.lines.length = store.lines.length ∧ heard.2.objects = store.objects ∧
      arrivingBytes heard.1.arrivals <+: (store.content chunk.remotePath).drop offset := by
  intro heard
  by_cases finished : firstServing fault = .finished
  · rw [finished] at found
    have same : heard = _ := hear_finished found
    rw [same]
    exact ⟨List.length_set, rfl, List.nil_prefix⟩
  · have same : heard = _ := hear_encode
      (isNulFree_question offset (understands.paths chunk listed) understands.space)
      (understands.within chunk listed offset inside) finished found
    have opened := firstServing_eq_opening finished
    have small : offset < UInt64.size := by
      have bound := chunk.byteLength.toNat_lt
      rw [UInt64.size]
      omega
    rw [opened] at same
    obtain ⟨objects, answer⟩ := serve_cat
      (.resuming chunk.remotePath chunk.encrypted (UInt64.ofNat offset) config.tableSpace) fault
      store
    rw [same]
    refine ⟨?_, objects, ?_⟩
    · rw [List.length_set, lines_serve]
    · rw [arrivingBytes_reaction]
      change _ <+: (store.content chunk.remotePath).drop (UInt64.ofNat offset).toNat at answer
      rw [UInt64.toNat_ofNat_of_lt' small] at answer
      exact answer

/-- The store serves its objects to any download whose questions it understands, whatever faults are
left in it. -/
theorem servesObjects {config : ClientConfig} {chunks : List Chunk}
    (understands : UnderstandsDownload config chunks) (store : ObjectStore) :
    ServesObjects store.content config chunks fun count (later : ObjectStore) =>
      later.lines.length = count ∧ later.objects = store.objects := by
  have accepted : ∀ {count : Nat} {peer later : ObjectStore} {opening : Opening},
      peer.lines.length = count ∧ peer.objects = store.objects →
      Peer.accept count peer = (.ok opening, later) →
      later.lines[count]? = some ⟨[], firstServing peer.faults.head?⟩ ∧
        later.lines.length = count + 1 ∧ later.objects = store.objects ∧
        opening.turns = [] ∧ opening.reaction.arrivals = [] := by
    intro count peer later opening given accepted
    rcases given with ⟨rfl, same⟩
    obtain ⟨turns, arrivals, _, rfl⟩ := accept_eq_ok accepted
    exact ⟨List.getElem?_concat_length, List.length_append, same, turns, arrivals⟩
  constructor
  · intro count peer error later meant declined
    rw [accept_eq_error declined]
    exact meant
  · intro count peer opening later meant taken
    obtain ⟨_, length, objects, _⟩ := accepted meant taken
    exact ⟨length, objects⟩
  · intro count peer opening later meant taken chunk listed offset inside question
    obtain ⟨found, length, objects, turns, _⟩ := accepted meant taken
    obtain ⟨sameLength, sameObjects, _⟩ := hear_question understands found listed inside
    rw [turns, Wire.writeAll_nil]
    exact ⟨sameLength.trans length, sameObjects.trans objects⟩
  · intro count peer opening later meant taken chunk listed offset inside question
    obtain ⟨found, _, objects, _, arrivals⟩ := accepted meant taken
    obtain ⟨_, _, answer⟩ := hear_question understands found listed inside
    rw [content_eq_of_objects objects] at answer
    rw [arrivals]
    exact answer
  · intro count peer connection given
    rcases given with ⟨length, objects⟩
    exact ⟨List.length_set.trans length, objects⟩

end ObjectStore

end SegmentOffload
