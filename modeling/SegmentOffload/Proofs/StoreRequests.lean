import SegmentOffload.Holdings
import SegmentOffload.Proofs.StoreUpload

/-!
Listings and removals at a store that no fault awaits.

A listing takes parts until it is acknowledged, so it gives exactly what the parts hold together,
however they were cut.  At a store without faults every listing and every removal goes well, and the
store is left as it was but for the objects that a removal names.
-/

namespace SegmentOffload

open Wire (Arrival Message ObjectMeta arrivingBytes)

/-! ### Reading a reply that arrives whole -/

section

variable {π : Type} [Peer π] {network : Network π} {session : Session} {line : Line}
  {message : Message} {left : Bytes}

omit [Peer π] in
theorem Network.setLine_setLine (connection : Nat) (line other : Line) (network : Network π) :
    (network.setLine connection line).setLine connection other =
      network.setLine connection other := by
  rw [setLine, setLine, setLine, List.set_set]

theorem Session.receive_of_delivers (found : network.openLine? session.connection = some line)
    (deliver : ∀ arrival ∈ line.arrivals, arrival.Delivers) (free : message.IsNulFree)
    (within : message.encode.length ≤ Wire.maximumSize)
    (arrive : arrivingBytes line.arrivals = message.encode ++ left) (action : String) :
    ∃ arrivals, session.receive action network =
        (.ok message, network.setLine session.connection { line with arrivals }) ∧
      arrivingBytes arrivals = left ∧ ∀ arrival ∈ arrivals, arrival.Delivers := by
  obtain ⟨arrivals, read, behind, delivers⟩ :=
    Wire.readMessage_of_delivers deliver free within arrive
  refine ⟨arrivals, ?_, behind, delivers⟩
  rw [receive, Network.receive_of_open found, read]

/-- Parts that arrive whole, with the acknowledgement behind them, make a listing. -/
theorem Listing.collect_of_delivers {client : Client π} (start : String)
    {parts : List (List ObjectMeta)} (received : List ObjectMeta) {fuel : Nat}
    (found : client.network.openLine? session.connection = some line)
    (deliver : ∀ arrival ∈ line.arrivals, arrival.Delivers)
    (arrive : arrivingBytes line.arrivals =
      parts.flatMap (fun part => (Message.objectMeta part).encode) ++ Message.readyForQuery.encode)
    (free : ∀ part ∈ parts, (Message.objectMeta part).IsNulFree)
    (within : ∀ part ∈ parts, (Message.objectMeta part).encode.length ≤ Wire.maximumSize)
    (enough : parts.length < fuel) :
    ∃ arrivals, collect session start fuel received client = (.ok (received ++ parts.flatten),
      { client with network :=
        (client.network.setLine session.connection { line with arrivals }) }) := by
  induction parts generalizing client line received fuel with
  | nil =>
    cases fuel with
    | zero => exact absurd enough (Nat.lt_irrefl 0)
    | succ fuel =>
      have plain : Message.readyForQuery.IsNulFree := trivial
      have small : Message.readyForQuery.encode.length ≤ Wire.maximumSize := by decide
      rw [List.flatMap_nil, List.nil_append, ← List.append_nil Message.readyForQuery.encode]
        at arrive
      obtain ⟨arrivals, taken, _⟩ :=
        Session.receive_of_delivers found deliver plain small arrive "reading listing"
      refine ⟨arrivals, ?_⟩
      rw [collect, taken, List.flatten_nil, List.append_nil]
  | cons part rest ih =>
    cases fuel with
    | zero => exact absurd enough (Nat.not_lt_zero _)
    | succ fuel =>
      obtain ⟨freeFirst, freeRest⟩ := List.forall_mem_cons.mp free
      obtain ⟨withinFirst, withinRest⟩ := List.forall_mem_cons.mp within
      rw [List.flatMap_cons, List.append_assoc] at arrive
      obtain ⟨arrivals, taken, behind, delivers⟩ :=
        Session.receive_of_delivers found deliver freeFirst withinFirst arrive "reading listing"
      have held := (Network.openLine?_eq_some_iff.mp found).2
      let after : Client π := { client with network :=
        (client.network.setLine session.connection { line with arrivals }) }
      have stands : after.network.openLine? session.connection = some { line with arrivals } :=
        Network.openLine?_setLine found held
      obtain ⟨last, collected⟩ := ih (received ++ part) stands delivers behind freeRest withinRest
        (Nat.lt_of_succ_lt_succ enough)
      refine ⟨last, ?_⟩
      rw [collect, taken]
      simp only [after] at collected
      simp only [collected, Network.setLine_setLine, List.flatten_cons, List.append_assoc]

end

theorem Wire.arrivingSize_eq (arrivals : List Arrival) :
    arrivingSize arrivals = (arrivingBytes arrivals).length := by
  induction arrivals with
  | nil => rfl
  | cons arrival later ih =>
    rw [arrivingBytes_cons, List.length_append, ← ih]
    cases arrival with
    | bytes data => rfl
    | interrupted => exact (Nat.zero_add _).symm
    | fail error => exact (Nat.zero_add _).symm

namespace ObjectStore

/-! ### Parts -/

theorem flatten_parts {α : Type} {size : Nat} (positive : 0 < size) {fuel : Nat} {items : List α}
    (enough : items.length ≤ fuel) : (parts size fuel items).flatten = items := by
  induction fuel generalizing items with
  | zero => rw [List.length_eq_zero_iff.mp (Nat.le_zero.mp enough), parts, List.flatten_nil]
  | succ fuel ih =>
    cases items with
    | nil => rw [parts, List.flatten_nil]
    | cons first rest =>
      have fewer : ((first :: rest).drop size).length ≤ fuel := by
        rw [List.length_drop]
        omega
      rw [parts, List.flatten_cons, ih fewer, List.take_append_drop]
      exact List.cons_ne_nil _ _

theorem mem_of_mem_fragments {store : ObjectStore} (positive : 0 < store.fragmentSize)
    {start : String} {part : List ObjectMeta} (cut : part ∈ store.fragments start)
    {entry : ObjectMeta} (listed : entry ∈ part) : entry ∈ store.listing start := by
  rw [← flatten_parts positive (Nat.le_refl (store.listing start).length)]
  exact List.mem_flatten_of_mem cut listed

/-! ### Requests of which nothing goes wrong -/

/-- Client and store have the same connections, and no fault awaits the next one. -/
structure Steady (network : Network ObjectStore) : Prop where
  matched : network.peer.lines.length = network.lines.length
  faultless : network.peer.faults = []
  running : network.peer.isStopped = false

/-- The store has the given objects, and is otherwise as it was but for what it has heard. -/
structure Becomes (objects : List (String × Bytes)) (network later : Network ObjectStore) :
    Prop where
  matched : later.peer.lines.length = later.lines.length
  peer : ∃ requests lines, later.peer = { network.peer with objects, requests, lines }

variable {objects : List (String × Bytes)} {network middle later : Network ObjectStore}

theorem Becomes.steady (becomes : Becomes objects network later) (steady : Steady network) :
    Steady later := by
  obtain ⟨matched, requests, lines, same⟩ := becomes
  refine ⟨matched, ?_, ?_⟩
  · rw [same]
    exact steady.faultless
  · rw [same]
    exact steady.running

theorem Becomes.objects_eq (becomes : Becomes objects network later) :
    later.peer.objects = objects := by
  obtain ⟨_, _, _, same⟩ := becomes
  rw [same]

theorem Becomes.release (becomes : Becomes objects network later) (connection : Nat) :
    Becomes objects network (later.release connection) := by
  obtain ⟨matched, requests, lines, same⟩ := becomes
  obtain ⟨count, untouched | told⟩ := later.release_cases connection
  · refine ⟨?_, requests, lines, ?_⟩
    · rw [count, untouched]
      exact matched
    · rw [untouched]
      exact same
  · refine ⟨?_, requests, lines.set connection ⟨[], .finished⟩, ?_⟩
    · rw [count, told]
      exact List.length_set.trans matched
    · rw [told, same]
      rfl

/-- A request is under way: the store awaits its next message on the connection, or has finished with
it, and the given bytes wait there for the client. -/
structure InStep (objects : List (String × Bytes)) (serving : Serving) (waiting : Bytes)
    (connection : Nat) (network later : Network ObjectStore) : Prop
    extends Becomes objects network later where
  heard : later.peer.lines[connection]? = some ⟨[], serving⟩
  line : ∃ line, later.openLine? connection = some line ∧ line.turns = [] ∧
    line.hungUp = decide (serving = .finished) ∧ arrivingBytes line.arrivals = waiting ∧
    ∀ arrival ∈ line.arrivals, arrival.Delivers

theorem accept_of_running {store : ObjectStore} (running : store.isStopped = false) :
    let serving := firstServing store.faults.head?
    store.accept = (.ok ⟨[], [], decide (serving = .finished)⟩, { store with
      faults := store.faults.drop 1
      lines := store.lines ++ [⟨[], serving⟩] }) := by
  rw [accept, running]
  rfl

/-- A connection is taken up with the fault that awaited it, unless that was to hang up. -/
theorem connect_with_fault (matched : network.peer.lines.length = network.lines.length)
    (running : network.peer.isStopped = false)
    (listens : network.peer.faults.head? ≠ some .hangUp) {disk : Disk} {socket : String}
    (reachable : disk.reachSocket socket = .ok ()) (remotePath : String) :
    let peer := { network.peer with faults := network.peer.faults.drop 1 }
    ∃ session middle, Session.connect disk socket remotePath network = (.ok session, middle) ∧
      InStep network.peer.objects (.opening network.peer.faults.head?) [] session.connection
        { network with peer } middle := by
  intro fewer
  let serving : Serving := .opening network.peer.faults.head?
  let lines : List StoreLine := network.peer.lines ++ [⟨[], serving⟩]
  let peer : ObjectStore := { fewer with lines }
  have accepted : Peer.accept network.lines.length network.peer = (.ok ⟨[], [], false⟩, peer) := by
    have first : firstServing network.peer.faults.head? = serving := if_neg listens
    have taken := accept_of_running running
    simp only [first] at taken
    exact taken
  refine ⟨⟨socket, remotePath, network.lines.length⟩,
    ⟨peer, network.lines ++ [.ofOpening ⟨[], [], false⟩]⟩, ?_, ⟨?_, ?_⟩, ?_, ?_⟩
  · simp only [Session.connect, Network.connect, reachable, accepted]
  · simp only [peer, lines, List.length_append, matched, List.length_singleton]
  · exact ⟨network.peer.requests, lines, rfl⟩
  · change lines[network.lines.length]? = _
    rw [← matched]
    exact List.getElem?_concat_length
  · refine ⟨_, Network.openLine?_connected network _ peer, rfl, rfl, rfl, ?_⟩
    intro arrival impossible
    cases impossible

theorem connect_inStep (steady : Steady network) {disk : Disk} {socket : String}
    (reachable : disk.reachSocket socket = .ok ()) (remotePath : String) :
    ∃ session middle, Session.connect disk socket remotePath network = (.ok session, middle) ∧
      InStep network.peer.objects (.opening none) [] session.connection network middle := by
  have none := steady.faultless
  have listens : network.peer.faults.head? ≠ some .hangUp := by
    rw [none]
    decide
  have connects := connect_with_fault steady.matched steady.running listens reachable remotePath
  have same : { network.peer with faults := [] } = network.peer := by rw [← none]
  simp only [none, List.head?_nil, List.drop_nil, same] at connects
  exact connects

theorem delivers_reaction (service : Service) :
    ∀ arrival ∈ service.reaction.arrivals, arrival.Delivers := by
  intro arrival listed
  obtain ⟨reply, kept, same⟩ := List.mem_map.mp listed
  have filled := (List.mem_filter.mp kept).2
  rw [Bool.not_eq_true', List.isEmpty_eq_false_iff] at filled
  rw [← same]
  exact filled

/-- A message is served at once, and what the store replies waits behind what waited before. -/
theorem InStep.send {serving : Serving} {waiting : Bytes} {session : Session} {message : Message}
    (inStep : InStep objects serving waiting session.connection network middle)
    (free : message.IsNulFree) (within : message.encode.length ≤ Wire.maximumSize)
    (listening : serving ≠ .finished) {after : List (String × Bytes)}
    (leaves : ∃ requests, (serve message serving middle.peer).store =
      { middle.peer with objects := after, requests }) (action : String) :
    let service := serve message serving middle.peer
    ∃ later, session.send message.encode action middle = (.ok (), later) ∧
      InStep after service.serving (waiting ++ service.replies.flatten) session.connection network
        later := by
  intro service
  obtain ⟨line, found, turns, hungUp, arriving, delivers⟩ := inStep.line
  rw [decide_eq_false listening] at hungUp
  have held := (Network.openLine?_eq_some_iff.mp found).2
  have inside : session.connection < middle.peer.lines.length :=
    (List.getElem?_eq_some_iff.mp inStep.heard).1
  have sent := send_encode_eq free within listening found hungUp turns inStep.heard
  obtain ⟨noted, stored⟩ := leaves
  obtain ⟨_, _, same⟩ := inStep.peer
  let lines := middle.peer.lines.set session.connection ⟨[], service.serving⟩
  let peer : ObjectStore := { service.store with lines }
  let written := ({ line with pieces := message.encode :: line.pieces }).react service.reaction
  let answered : Network ObjectStore := { middle with peer }
  have opened : answered.openLine? session.connection = some line := found
  refine ⟨answered.setLine session.connection written, ?_, ⟨?_, ?_⟩, ?_, ?_⟩
  · rw [Session.send, sent]
  · rw [Network.peer_setLine, Network.lines_setLine, List.length_set, List.length_set]
    exact inStep.matched
  · refine ⟨noted, lines, ?_⟩
    change { service.store with lines } = _
    rw [stored, same]
  · rw [Network.peer_setLine]
    exact List.getElem?_set_self inside
  · refine ⟨written, Network.openLine?_setLine opened held, turns, ?_, ?_, ?_⟩
    · change (line.hungUp || decide (service.serving = .finished)) = _
      rw [hungUp, Bool.false_or]
    · change arrivingBytes (line.arrivals ++ service.reaction.arrivals) = _
      rw [arrivingBytes, List.flatMap_append, ← arrivingBytes_reaction, ← arriving]
      rfl
    · intro arrival listed
      rcases List.mem_append.mp listed with earlier | fresh
      · exact delivers arrival earlier
      · exact delivers_reaction service arrival fresh

/-- The first message of a listing or a removal is only noted. -/
theorem InStep.noted {waiting : Bytes} {connection : Nat} {fault : Option Fault}
    (inStep : InStep objects (.opening fault) waiting connection network middle)
    {message : Message} (asks : (∃ request, message = .delete request) ∨
      ∃ start, message = .list start) :
    ∃ requests, (serve message (.opening fault) middle.peer).store =
      { middle.peer with objects, requests } := by
  rw [← inStep.objects_eq]
  rcases asks with ⟨request, rfl⟩ | ⟨start, rfl⟩
  · exact ⟨_, rfl⟩
  · exact ⟨_, rfl⟩

/-- The acknowledgement is taken, and nothing waits any more. -/
theorem InStep.expectReady {serving : Serving} {session : Session}
    (inStep : InStep objects serving Message.readyForQuery.encode session.connection network middle)
    (action : String) :
    ∃ later, session.expectReady action middle = (.ok (), later) ∧
      InStep objects serving [] session.connection network later := by
  obtain ⟨line, found, turns, hungUp, arriving, delivers⟩ := inStep.line
  have held := (Network.openLine?_eq_some_iff.mp found).2
  have plain : Message.readyForQuery.IsNulFree := trivial
  have small : Message.readyForQuery.encode.length ≤ Wire.maximumSize := by decide
  rw [← List.append_nil Message.readyForQuery.encode] at arriving
  obtain ⟨arrivals, taken, behind, left⟩ :=
    Session.receive_of_delivers found delivers plain small arriving action
  let read : Line := { line with arrivals }
  have stillHeld : read.isOpen = true := held
  have stands := Network.openLine?_setLine found stillHeld
  refine ⟨middle.setLine session.connection read, ?_, ⟨?_, inStep.peer⟩, inStep.heard, read,
    stands, turns, hungUp, behind, left⟩
  · rw [Session.expectReady, taken]
  · rw [Network.peer_setLine, Network.lines_setLine, List.length_set]
    exact inStep.matched

/-! ### Removals -/

/-- The objects that are left when a removal has been acknowledged. -/
def leftBy (request : Wire.DeleteRequest) (objects : List (String × Bytes)) :
    List (String × Bytes) :=
  if request.confirm then
    objects.filter fun object =>
      !(if request.garbage then beginsWith request.remotePath object.1
        else object.1 = request.remotePath)
  else objects

theorem remove_eq (request : Wire.DeleteRequest) (store : ObjectStore) :
    store.remove request = { store with objects := leftBy request store.objects } := by
  unfold remove leftBy
  split
  · rfl
  · rfl

theorem remove_spec {config : ClientConfig} {disk : Disk} {client : Client ObjectStore}
    (steady : Steady client.network) (reachable : disk.reachSocket config.socketPath = .ok ())
    (mode : RemovalMode) {remotePath : String} (free : NulFree remotePath)
    (within :
      (Message.delete (mode.request config remotePath)).encode.length ≤ Wire.maximumSize) :
    ∃ network, mode.remove config remotePath disk client = (.ok (), { client with network }) ∧
      Becomes (leftBy (mode.request config remotePath) client.network.peer.objects) client.network
        network := by
  have plain : (Message.delete (mode.request config remotePath)).IsNulFree := by
    cases mode with
    | direct => exact free
    | garbage segmentIndex confirm => exact free
  generalize named : mode.request config remotePath = request at within plain ⊢
  have plainEnd : Message.commandComplete.IsNulFree := trivial
  have smallEnd : Message.commandComplete.encode.length ≤ Wire.maximumSize := by decide
  have awaitsRequest : Serving.opening none ≠ .finished := by decide
  have awaitsEnd : Serving.removing request none ≠ .finished := by
    intro impossible
    cases impossible
  obtain ⟨session, connected, connects, begun⟩ := connect_inStep steady reachable remotePath
  obtain ⟨requested, requests, asked⟩ := begun.send plain within awaitsRequest
    (begun.noted (.inl ⟨request, rfl⟩)) "requesting delete"
  obtain ⟨completed, completes, served⟩ := asked.send plainEnd smallEnd awaitsEnd
    ⟨_, remove_eq request _⟩ "finishing delete"
  obtain ⟨acknowledged, answers, last⟩ := served.expectReady "finishing delete"
  refine ⟨session.close acknowledged, ?_, ?_⟩
  · rw [RemovalMode.remove, connects]
    simp only [named, requests, Session.complete, completes, answers]
  · rw [← asked.objects_eq]
    exact last.toBecomes.release session.connection

/-! ### Listings -/

/-- The store answers a listing in parts, and then as its fault has it. -/
theorem InStep.askListing {session : Session} {fault : Option Fault}
    (begun : InStep objects (.opening fault) [] session.connection network middle)
    {start : String} (free : NulFree start)
    (within : (Message.list start).encode.length ≤ Wire.maximumSize) :
    ∃ later,
      session.send (Message.list start).encode "requesting listing" middle = (.ok (), later) ∧
      InStep objects .finished
        ((middle.peer.fragments start).flatMap (fun part => (Message.objectMeta part).encode) ++
          acknowledgement fault) session.connection network later := by
  have plain : (Message.list start).IsNulFree := free
  have awaits : Serving.opening fault ≠ .finished := Serving.noConfusion
  obtain ⟨later, requests, asked⟩ := begun.send plain within awaits
    (begun.noted (.inr ⟨start, rfl⟩)) "requesting listing"
  have replied : (serve (.list start) (.opening fault) middle.peer).replies.flatten =
      (middle.peer.fragments start).flatMap (fun part => (Message.objectMeta part).encode) ++
        acknowledgement fault := by
    rw [List.flatMap_def, ← List.flatten_concat]
    rfl
  rw [List.nil_append, replied] at asked
  exact ⟨later, requests, asked⟩

theorem InStep.fragments_eq {serving : Serving} {waiting : Bytes} {connection : Nat}
    (inStep : InStep objects serving waiting connection network middle)
    (kept : objects = network.peer.objects) (start : String) :
    middle.peer.fragments start = network.peer.fragments start := by
  obtain ⟨_, _, same⟩ := inStep.peer
  rw [same, kept]
  rfl

/-- A listing gives every object whose path begins as asked, in the order of the store. -/
theorem list_spec {config : ClientConfig} {disk : Disk} {client : Client ObjectStore}
    (steady : Steady client.network) (reachable : disk.reachSocket config.socketPath = .ok ())
    (positive : 0 < client.network.peer.fragmentSize) {start : String} (free : NulFree start)
    (within : (Message.list start).encode.length ≤ Wire.maximumSize)
    (plain : ∀ entry ∈ client.network.peer.listing start, NulFree entry.path)
    (fit : ∀ part ∈ client.network.peer.fragments start,
      (Message.objectMeta part).encode.length ≤ Wire.maximumSize) :
    ∃ network, Listing.list config start disk client =
        (.ok (client.network.peer.listing start), { client with network }) ∧
      Becomes client.network.peer.objects client.network network := by
  obtain ⟨session, connected, connects, begun⟩ := connect_inStep steady reachable start
  obtain ⟨requested, requests, asked⟩ := begun.askListing free within
  rw [begun.fragments_eq rfl] at asked
  obtain ⟨line, found, _, _, arriving, delivers⟩ := asked.line
  have enough : (client.network.peer.fragments start).length <
      Listing.arrivedSize session requested + 1 := by
    have parts : (client.network.peer.fragments start).length ≤
        ((client.network.peer.fragments start).flatMap
          fun part => (Message.objectMeta part).encode).length :=
      length_le_length_flatMap fun part _ => (Message.objectMeta part).encode_ne_nil
    rw [Listing.arrivedSize, found]
    simp only [Wire.arrivingSize_eq, arriving, List.length_append]
    omega
  have free : ∀ part ∈ client.network.peer.fragments start, (Message.objectMeta part).IsNulFree := by
    intro part cut entry listed
    exact plain entry (mem_of_mem_fragments positive cut listed)
  have talking : ({ client with network := requested } : Client ObjectStore).network.openLine?
      session.connection = some line := found
  obtain ⟨arrivals, collected⟩ := Listing.collect_of_delivers start [] talking delivers arriving
    free fit enough
  refine ⟨session.close (requested.setLine session.connection { line with arrivals }), ?_, ?_⟩
  · rw [Listing.list, connects]
    simp only [requests, collected, List.nil_append]
    rw [ObjectStore.fragments, flatten_parts positive (Nat.le_refl _)]
  · apply Becomes.release
    refine ⟨?_, asked.peer⟩
    rw [Network.peer_setLine, Network.lines_setLine, List.length_set]
    exact asked.matched

end ObjectStore

end SegmentOffload
