import SegmentOffload.Proofs.ListingAnswers

/-!
Listings at a store that cuts its answers into parts of some size.

What is listed depends on the objects alone: batching, writing, framing, reading and joining come to
nothing, whatever the size of a part.  A store that acknowledges with a message that nobody expects
has still sent every part.
-/

namespace SegmentOffload

open Wire (Message ObjectMeta arrivingBytes unbrokenBytes)

namespace ObjectStore

/-! ### What is listed -/

/-- An entry names an object and has its length, which is below what a word can hold. -/
def Describes (entry : ObjectMeta) (object : String × Bytes) : Prop :=
  entry.path = object.1 ∧ (object.2.length < UInt64.size → entry.size.toNat = object.2.length)

theorem listing_describes (store : ObjectStore) (start : String) :
    List.Forall₂ Describes (store.listing start)
      (store.objects.filter fun object => beginsWith start object.1) := by
  rw [listing, List.forall₂_map_left_iff, List.forall₂_same]
  intro object _
  exact ⟨rfl, UInt64.toNat_ofNat_of_lt'⟩

theorem listing_pairwise {store : ObjectStore}
    (ordered : store.objects.Pairwise fun earlier later => earlier.1 < later.1) (start : String) :
    (store.listing start).Pairwise fun earlier later => earlier.path < later.path := by
  rw [listing, List.pairwise_map]
  exact ordered.sublist List.filter_sublist

theorem mem_listing {store : ObjectStore} {start : String} {entry : ObjectMeta}
    (listed : entry ∈ store.listing start) :
    beginsWith start entry.path = true ∧ ∃ object ∈ store.objects, entry.path = object.1 := by
  obtain ⟨object, kept, rfl⟩ := List.mem_map.mp listed
  obtain ⟨stored, begins⟩ := List.mem_filter.mp kept
  exact ⟨begins, object, stored, rfl⟩

/-! ### Parts that fit -/

/-- Every part of a listing fits a frame. -/
def PartsFit (start : String) (store : ObjectStore) : Prop :=
  ∀ part ∈ store.fragments start, (Message.objectMeta part).encode.length ≤ Wire.maximumSize

/-- A path that is listed is at least as long as the request, so the request fits with it. -/
theorem request_fits {store : ObjectStore} (positive : 0 < store.fragmentSize) {start : String}
    (fit : PartsFit start store)
    (alone : store.listing start = [] → (Message.list start).encode.length ≤ Wire.maximumSize) :
    (Message.list start).encode.length ≤ Wire.maximumSize := by
  cases entries : store.listing start with
  | nil => exact alone entries
  | cons entry rest =>
    have listed : entry ∈ store.listing start := by
      rw [entries]
      exact List.mem_cons_self
    have joined := flatten_parts positive (Nat.le_refl (store.listing start).length)
    obtain ⟨part, cut, inside⟩ := List.mem_flatten.mp (joined.symm ▸ listed)
    have whole := fit part cut
    have longer : (textBytes start).length ≤ (textBytes entry.path).length :=
      (List.isPrefixOf_iff_prefix.mp (mem_listing listed).1).length_le
    have within : entry.bytes.length ≤ (part.flatMap ObjectMeta.bytes).length :=
      (List.sublist_flatten_of_mem (List.mem_map_of_mem inside)).length_le
    rw [ObjectMeta.bytes, List.length_append, Wire.length_textField] at within
    simp only [Message.length_encode, Message.body, Wire.length_textField] at whole ⊢
    omega

/-! ### What the client makes of the parts -/

/-- The message by which the store says that it is done. -/
def closing : Option Fault → Message
  | some .wrongReply => .copyData (textBytes "surprise")
  | _ => .readyForQuery

theorem acknowledgement_eq (fault : Option Fault) :
    acknowledgement fault = (closing fault).encode := by
  cases fault with
  | none => rfl
  | some fault =>
    cases fault with
    | dropAfter count => rfl
    | wrongReply => rfl
    | hangUp => rfl

theorem decode_closing (fault : Option Fault) :
    Message.decode (closing fault).encode = .ok (closing fault) := by
  cases fault with
  | none => decide +kernel
  | some fault =>
    cases fault with
    | dropAfter count => exact decode_closing none
    | wrongReply => decide +kernel
    | hangUp => exact decode_closing none

variable {config : ClientConfig} {disk : Disk} {client : Client ObjectStore} {start : String}

/-- The peer's answer to a listing, with whatever the store closes it. -/
theorem list_brings (matched : client.network.peer.lines.length = client.network.lines.length)
    (running : client.network.peer.isStopped = false)
    (listens : client.network.peer.faults.head? ≠ some .hangUp)
    (reachable : disk.reachSocket config.socketPath = .ok ()) (free : NulFree start)
    (within : (Message.list start).encode.length ≤ Wire.maximumSize)
    (plain : ∀ entry ∈ client.network.peer.listing start, NulFree entry.path)
    (positive : 0 < client.network.peer.fragmentSize) (fit : PartsFit start client.network.peer) :
    let closed := (closing client.network.peer.faults.head?).encode
    ∃ stream, Listing.Brings (client.network.peer.fragments start) stream closed ∧
      Listing.Concludes start [] stream (Listing.list config start disk client).1 := by
  intro closed
  obtain ⟨session, connected, connects, begun⟩ :=
    connect_with_fault matched running listens reachable start
  obtain ⟨requested, requests, asked⟩ := begun.askListing free within
  obtain ⟨line, lines, concludes, _⟩ := Listing.list_concludes connects requests
  obtain ⟨told, found, _, _, arriving, delivers⟩ := asked.line
  have same : told = line := by
    obtain ⟨place, _⟩ := Session.connect_holds connects
    obtain ⟨there, _⟩ := Network.openLine?_eq_some_iff.mp found
    rw [place, lines, List.getElem?_concat_length] at there
    exact (Option.some.inj there).symm
  have parts : connected.peer.fragments start = client.network.peer.fragments start :=
    begun.fragments_eq rfl start
  rw [parts, acknowledgement_eq, same] at arriving
  rw [same] at delivers
  rw [Wire.unbrokenBytes_of_delivers delivers, arriving, List.flatMap_def] at concludes
  refine ⟨_, ⟨_, rfl, ?_⟩, concludes⟩
  rw [List.forall₂_map_left_iff, List.forall₂_same]
  intro part cut
  refine Message.decode_encode ?_ (fit part cut)
  intro entry listed
  exact plain entry (mem_of_mem_fragments positive cut listed)

/-- What the store closes a listing with decides whether its parts are an answer. -/
theorem list_of_fault (matched : client.network.peer.lines.length = client.network.lines.length)
    (running : client.network.peer.isStopped = false)
    (reachable : disk.reachSocket config.socketPath = .ok ()) (free : NulFree start)
    (alone : client.network.peer.listing start = [] →
      (Message.list start).encode.length ≤ Wire.maximumSize)
    (plain : ∀ entry ∈ client.network.peer.listing start, NulFree entry.path)
    (positive : 0 < client.network.peer.fragmentSize) (fit : PartsFit start client.network.peer) :
    (client.network.peer.faults.head? = none →
      (Listing.list config start disk client).1 = .ok (client.network.peer.listing start)) ∧
    (client.network.peer.faults.head? = some .wrongReply →
      (Listing.list config start disk client).1 =
        .error (.incompleteListing start (client.network.peer.listing start)
          "unexpected CopyData in listing")) := by
  have within := request_fits positive fit alone
  have joined : (client.network.peer.fragments start).flatten = client.network.peer.listing start :=
    flatten_parts positive (Nat.le_refl _)
  have brings (fault : Option Fault) (awaits : client.network.peer.faults.head? = fault)
      (listens : fault ≠ some .hangUp) :
      ∃ stream, Listing.Brings (client.network.peer.fragments start) stream
          ((closing fault).encode) ∧
        Listing.Concludes start [] stream (Listing.list config start disk client).1 := by
    subst awaits
    exact list_brings matched running listens reachable free within plain positive fit
  constructor
  · intro faultless
    obtain ⟨stream, brought, concludes⟩ := brings none faultless (by decide)
    have answers : Listing.Answers (client.network.peer.fragments start) stream := by
      refine ⟨(closing none).encode, [], decode_closing none, ?_⟩
      rw [List.append_nil]
      exact brought
    rcases concludes with ⟨parts, again, same⟩ | ⟨parts, rest, reason, breaks, _⟩
    · rw [same, ← answers.unique again, joined, List.nil_append]
    · exact absurd breaks answers.not_breaksOff
  · intro wrong
    obtain ⟨stream, brought, concludes⟩ := brings (some .wrongReply) wrong (by decide)
    have decoded := decode_closing (some .wrongReply)
    have only {frame : Bytes} {message : Message}
        (front : frame <+: (closing (some .wrongReply)).encode)
        (alike : Message.decode frame = .ok message) : message = closing (some .wrongReply) := by
      obtain ⟨left, whole⟩ := front
      rw [← List.append_nil (closing (some .wrongReply)).encode] at whole
      exact (Wire.decode_front_unique alike decoded whole).2
    have breaks : Listing.BreaksOff (client.network.peer.fragments start) stream
        (closing (some .wrongReply)).encode := by
      refine ⟨brought, ?_⟩
      intro frame message front alike
      rw [only front alike]
      exact ⟨Message.noConfusion, fun part => Message.noConfusion⟩
    rcases concludes with ⟨parts, again, _⟩ | ⟨parts, rest, reason, further, explains, same⟩
    · exact absurd breaks again.not_breaksOff
    · obtain ⟨rfl, rfl⟩ := breaks.unique further
      rw [same, joined, List.nil_append, explains _ _ List.prefix_rfl decoded]
      rfl

/-- The client of a store whose parts hold so many entries. -/
def withParts (size : Nat) (client : Client ObjectStore) : Client ObjectStore :=
  { client with
    network := { client.network with peer := client.network.peer.setFragmentSize size } }

/-- A listing gives one entry for each object whose path begins as asked, in the order of the paths
and with the object's length, however many entries a part holds; and a store that closes its answer
with a message nobody expects makes an error of that same listing.  The request has to fit a frame by
itself only where nothing is listed. -/
theorem listing_independent_of_parts
    (matched : client.network.peer.lines.length = client.network.lines.length)
    (running : client.network.peer.isStopped = false)
    (reachable : disk.reachSocket config.socketPath = .ok ()) (free : NulFree start)
    (ordered : client.network.peer.objects.Pairwise fun earlier later => earlier.1 < later.1)
    (plain : ∀ object ∈ client.network.peer.objects, NulFree object.1)
    (alone : client.network.peer.listing start = [] →
      (Message.list start).encode.length ≤ Wire.maximumSize)
    {first second : Nat} (fitFirst : PartsFit start (client.network.peer.setFragmentSize first))
    (fitSecond : PartsFit start (client.network.peer.setFragmentSize second)) :
    let entries := client.network.peer.listing start
    let answer size := (Listing.list config start disk (withParts size client)).1
    let named := client.network.peer.objects.filter fun object => beginsWith start object.1
    List.Forall₂ Describes entries named ∧
    entries.Pairwise (fun earlier later => earlier.path < later.path) ∧
    (client.network.peer.faults.head? = none →
      answer first = .ok entries ∧ answer second = answer first) ∧
    (client.network.peer.faults.head? = some .wrongReply →
      answer first =
          .error (.incompleteListing start entries "unexpected CopyData in listing") ∧
        answer second = answer first) := by
  intro entries answer named
  have readable : ∀ entry ∈ entries, NulFree entry.path := by
    intro entry listed
    obtain ⟨_, object, stored, same⟩ := mem_listing listed
    rw [same]
    exact plain object stored
  have answers (size : Nat) (fit : PartsFit start (client.network.peer.setFragmentSize size)) :
      (client.network.peer.faults.head? = none → answer size = .ok entries) ∧
        (client.network.peer.faults.head? = some .wrongReply → answer size =
          .error (.incompleteListing start entries "unexpected CopyData in listing")) := by
    have positive : 0 < (client.network.peer.setFragmentSize size).fragmentSize :=
      Nat.lt_of_lt_of_le Nat.zero_lt_one (Nat.le_max_left 1 size)
    exact @list_of_fault config disk (withParts size client) start matched running reachable free
      alone readable positive fit
  obtain ⟨wholeFirst, wrongFirst⟩ := answers first fitFirst
  obtain ⟨wholeSecond, wrongSecond⟩ := answers second fitSecond
  refine ⟨listing_describes _ start, listing_pairwise ordered start, ?_, ?_⟩
  · intro faultless
    exact ⟨wholeFirst faultless, (wholeSecond faultless).trans (wholeFirst faultless).symm⟩
  · intro wrong
    exact ⟨wrongFirst wrong, (wrongSecond wrong).trans (wrongFirst wrong).symm⟩

/-- Three objects below a path and one beside it, and a store that closes its first answer wrongly. -/
def wrongStore : ObjectStore :=
  { ObjectStore.empty with
    objects := [("a", [0]), ("b/1", [1]), ("b/2", [2, 2]), ("b/3", [])]
    faults := [.wrongReply] }

def wrongClient : Client ObjectStore := ⟨⟨wrongStore, []⟩, []⟩

theorem listing_independent_of_parts_in_ones_and_twos :
    let answer size := (Listing.list Download.socketConfig "b/" Download.socketDisk
      (withParts size wrongClient)).1
    answer 1 = .error (.incompleteListing "b/" [⟨"b/1", 1⟩, ⟨"b/2", 2⟩, ⟨"b/3", 0⟩]
      "unexpected CopyData in listing") ∧ answer 2 = answer 1 := by
  intro answer
  have matched : wrongClient.network.peer.lines.length = wrongClient.network.lines.length := rfl
  have reachable : Download.socketDisk.reachSocket Download.socketConfig.socketPath = .ok () := by
    decide +kernel
  have ordered : wrongClient.network.peer.objects.Pairwise
      fun earlier later => earlier.1 < later.1 := by
    decide +kernel
  have plain : ∀ object ∈ wrongClient.network.peer.objects, NulFree object.1 := by decide
  have fit (size : Nat) (small : size = 1 ∨ size = 2) :
      PartsFit "b/" (wrongClient.network.peer.setFragmentSize size) := by
    rcases small with rfl | rfl
    · unfold PartsFit
      decide +kernel
    · unfold PartsFit
      decide +kernel
  obtain ⟨_, _, _, wrong⟩ := listing_independent_of_parts matched rfl reachable (by decide)
    ordered plain (fun _ => by decide +kernel) (fit 1 (.inl rfl)) (fit 2 (.inr rfl))
  have listed : wrongClient.network.peer.listing "b/" =
      [⟨"b/1", 1⟩, ⟨"b/2", 2⟩, ⟨"b/3", 0⟩] := by
    decide +kernel
  rw [listed] at wrong
  exact wrong rfl

end ObjectStore

end SegmentOffload
