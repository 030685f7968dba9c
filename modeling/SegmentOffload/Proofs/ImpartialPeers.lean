import SegmentOffload.Peer.Unreachable
import SegmentOffload.Proofs.StoreAnswers

/-!
Peers that treat all connections alike.

Such a peer takes up every connection in the same way, and its answer goes by the question that is
asked there, whatever happens on the other connections.  So what comes of a connection is settled by
what its own client does.
-/

namespace SegmentOffload

open Wire (Message)

/-- A peer that answers a download's questions by the question alone. -/
structure Impartial (π : Type) [Peer π] (config : ClientConfig) (chunks : List Chunk) where
  /-- How a connection is taken up. -/
  greeting : Except IoError Opening
  reply : Message → Reaction
  /-- The peer is as it should be after so many connections. -/
  ready : Nat → π → Prop
  /-- Nothing was said on a connection. -/
  awaits : Nat → π → Prop
  greets : ∀ {count peer}, ready count peer → (Peer.accept count peer).1 = greeting
  refusing : ∀ {count peer error}, greeting = .error error → ready count peer →
    ready count (Peer.accept count peer).2
  accepting : ∀ {count peer opening}, greeting = .ok opening → ready count peer →
    ready (count + 1) (Peer.accept count peer).2 ∧ awaits count (Peer.accept count peer).2
  /-- What the peer hears of a question may be cut off. -/
  replies : ∀ {count peer connection opening}, greeting = .ok opening → ready count peer →
    awaits connection peer → ∀ chunk ∈ chunks, ∀ offset,
      let question := Download.question config chunk offset
      let heard := Peer.hear connection (Wire.writeAll question.encode opening.turns).accepted peer
      heard.1 = reply question ∧ ready count heard.2 ∧
        ∀ other, other ≠ connection → awaits other peer → awaits other heard.2
  releasing : ∀ {count peer connection}, ready count peer → ready count (Peer.release connection peer)
  /-- Connections that come and go are nothing to the others. -/
  acceptingAside : ∀ {count peer other}, ready count peer → awaits other peer →
    awaits other (Peer.accept count peer).2
  releasingAside : ∀ {count peer connection other}, ready count peer → other ≠ connection →
    awaits other peer → awaits other (Peer.release connection peer)

/-- What comes of connecting, after the disk was asked for the socket. -/
def Impartial.welcome {π : Type} [Peer π] {config : ClientConfig} {chunks : List Chunk}
    (terms : Impartial π config chunks) (reached : Except IoError Unit) : Except IoError Opening :=
  match reached with
  | .error error => .error error
  | .ok () => terms.greeting

/-- Send bytes over a line to a peer that will react in a given way. -/
def Line.say (reaction : Reaction) (data : Bytes) (line : Line) : Except IoError Unit × Line :=
  if line.hungUp then (.error .brokenPipe, line)
  else
    let written := Wire.writeAll data line.turns
    let line := { line with turns := written.turns, pieces := written.accepted :: line.pieces }
    (written.outcome, if written.accepted.isEmpty then line else line.react reaction)

namespace Network

variable {π : Type} [Peer π] {config : ClientConfig} {chunks : List Chunk}
  {terms : Impartial π config chunks} {network later : Network π} {connection : Nat} {line : Line}

/-- Something happened on one connection, and the others noticed nothing. -/
structure Aside (terms : Impartial π config chunks) (connection : Nat) (now later : Network π) :
    Prop where
  ready : terms.ready later.lines.length later.peer
  lines : ∀ other line, other ≠ connection → now.openLine? other = some line →
    later.openLine? other = some line
  awaits : ∀ other, other ≠ connection → terms.awaits other now.peer → terms.awaits other later.peer

theorem Aside.refl (connection : Nat) (ready : terms.ready network.lines.length network.peer) :
    Aside terms connection network network :=
  ⟨ready, fun _ _ _ found => found, fun _ _ waiting => waiting⟩

theorem Aside.trans {now middle : Network π} (first : Aside terms connection now middle)
    (second : Aside terms connection middle later) : Aside terms connection now later where
  ready := second.ready
  lines other line apart found := second.lines other line apart (first.lines other line apart found)
  awaits other apart waiting := second.awaits other apart (first.awaits other apart waiting)

omit [Peer π] in
theorem openLine?_setLine_of_ne {other : Nat} (apart : other ≠ connection) (network : Network π)
    (line : Line) : (network.setLine connection line).openLine? other = network.openLine? other := by
  rw [openLine?, openLine?, lines_setLine, List.getElem?_set_ne (Ne.symm apart)]

/-- Changing a line, with the peer as it should be. -/
theorem Aside.ofLine {peer : π} (ready : terms.ready network.lines.length peer)
    (awaits : ∀ other, other ≠ connection → terms.awaits other network.peer →
      terms.awaits other peer) :
    Aside terms connection network ({ network with peer }.setLine connection line) := by
  refine ⟨?_, ?_, awaits⟩
  · rw [lines_setLine, List.length_set]
    exact ready
  · intro other line apart found
    rw [openLine?_setLine_of_ne apart]
    exact found

theorem connect_aside {disk : Disk} {socket : String} {outcome : Except IoError Nat}
    (ready : terms.ready network.lines.length network.peer)
    (connected : network.connect disk socket = (outcome, later)) :
    Aside terms network.lines.length network later ∧
      match terms.welcome (disk.reachSocket socket) with
      | .error error => outcome = .error error
      | .ok opening => outcome = .ok network.lines.length ∧
          terms.greeting = .ok opening ∧ terms.awaits network.lines.length later.peer ∧
          later.openLine? network.lines.length = some (.ofOpening opening) := by
  unfold connect at connected
  split at connected
  · rename_i error reached
    cases connected
    rw [reached]
    exact ⟨.refl _ ready, rfl⟩
  · rename_i reached
    rw [reached]
    have greeted := terms.greets ready
    have aside := fun other => @Impartial.acceptingAside π _ config chunks terms
      network.lines.length network.peer other ready
    split at connected
    · rename_i error peer declined
      cases connected
      rw [declined] at greeted aside
      have still := terms.refusing greeted.symm ready
      rw [declined] at still
      rw [Impartial.welcome, ← greeted]
      exact ⟨⟨still, fun _ _ _ found => found, fun other _ => aside other⟩, rfl⟩
    · rename_i opening peer accepted
      cases connected
      rw [accepted] at greeted aside
      have taken := terms.accepting greeted.symm ready
      rw [accepted] at taken
      rw [Impartial.welcome, ← greeted]
      refine ⟨⟨?_, ?_, fun other _ => aside other⟩, rfl, rfl, taken.2,
        network.openLine?_connected opening peer⟩
      · rw [List.length_append, List.length_singleton]
        exact taken.1
      · intro other line _ found
        rw [openLine?_eq_some_iff] at found ⊢
        obtain ⟨there, held⟩ := found
        obtain ⟨inside, _⟩ := List.getElem?_eq_some_iff.mp there
        exact ⟨(List.getElem?_append_left inside).trans there, held⟩

/-- A question on a new connection is answered as ever. -/
theorem send_aside {opening : Opening} {chunk : Chunk} {offset : Nat}
    {outcome : Except IoError Unit}
    (ready : terms.ready network.lines.length network.peer) (greeting : terms.greeting = .ok opening)
    (awaits : terms.awaits connection network.peer)
    (found : network.openLine? connection = some (.ofOpening opening)) (listed : chunk ∈ chunks)
    (sent : network.send connection (Download.question config chunk offset).encode =
      (outcome, later)) :
    let question := Download.question config chunk offset
    let said := (Line.ofOpening opening).say (terms.reply question) question.encode
    Aside terms connection network later ∧ outcome = said.1 ∧
      later.openLine? connection = some said.2 := by
  intro question said
  have held (line : Line) (stays : line.isOpen = true) (peer : π) :
      ({ network with peer }.setLine connection line).openLine? connection = some line :=
    openLine?_setLine (found : ({ network with peer } : Network π).openLine? connection = _) stays
  obtain ⟨answered, still, others⟩ := terms.replies greeting ready awaits chunk listed offset
  change network.send connection question.encode = (outcome, later) at sent
  have filled : question.encode.isEmpty = false := by
    rw [List.isEmpty_eq_false_iff]
    exact question.encode_ne_nil
  cases gone : (Line.ofOpening opening).hungUp with
  | true =>
    rw [send_of_hungUp found question.encode_ne_nil gone] at sent
    cases sent
    have same : said = (.error .brokenPipe, .ofOpening opening) := if_pos gone
    rw [same]
    exact ⟨.refl _ ready, rfl, found⟩
  | false =>
    rw [send, found] at sent
    simp only [filled, gone, Bool.false_eq_true, if_false] at sent
    simp only [said, Line.say, gone, Bool.false_eq_true, if_false]
    split at sent
    · rename_i nothing
      cases sent
      rw [if_pos nothing]
      exact ⟨.ofLine ready fun _ _ waiting => waiting, rfl, held _ rfl _⟩
    · rename_i something
      cases sent
      rw [if_neg something, ← answered]
      exact ⟨.ofLine still others, rfl, held _ rfl _⟩

theorem read_aside {limit : Nat} {outcome : Except IoError Bytes}
    (ready : terms.ready network.lines.length network.peer)
    (found : network.openLine? connection = some line)
    (took : network.read connection limit = (outcome, later)) :
    let taken := Wire.readPatiently limit line.arrivals
    Aside terms connection network later ∧ outcome = taken.1 ∧
      later.openLine? connection = some { line with arrivals := taken.2 } := by
  rw [read, found] at took
  cases took
  exact ⟨.ofLine ready fun _ _ waiting => waiting, rfl,
    openLine?_setLine found (openLine?_eq_some_iff.mp found).2⟩

theorem release_aside (connection : Nat) (ready : terms.ready network.lines.length network.peer) :
    Aside terms connection network (network.release connection) := by
  unfold release
  split
  · exact .refl _ ready
  · exact .ofLine (terms.releasing ready) fun _ apart => terms.releasingAside ready apart

end Network

/-! ### Nobody -/

/-- A peer that nobody reaches refuses everybody. -/
def Unreachable.impartial (config : ClientConfig) (chunks : List Chunk) :
    Impartial Unreachable config chunks where
  greeting := .error refusal
  reply _ := .silence
  ready _ _ := True
  awaits _ _ := True
  greets _ := rfl
  refusing _ _ := trivial
  accepting impossible _ := nomatch impossible
  replies impossible _ _ _ _ _ := nomatch impossible
  releasing _ := trivial
  acceptingAside _ _ := trivial
  releasingAside _ _ _ := trivial

/-! ### The store in memory -/

namespace ObjectStore

open Download (question)

theorem length_encode_question (config : ClientConfig) (chunk : Chunk) (offset : Nat) :
    (question config chunk offset).encode.length = (question config chunk 0).encode.length := by
  rw [Message.length_encode, Message.length_encode]
  simp only [question, Message.body, List.length_append, length_wordBytes]
  rfl

/-- The answer to a question goes by the objects, and the store only makes a note of it. -/
theorem serve_cat_eq (request : Wire.CatRequest) (fault : Option Fault) {store other : ObjectStore}
    (same : store.objects = other.objects) :
    (serve (.cat request) (.opening fault) store).reaction =
        (serve (.cat request) (.opening fault) other).reaction ∧
      (serve (.cat request) (.opening fault) store).store =
        { store with requests := store.requests ++ [.cat request] } := by
  have alike : object? { store with requests := store.requests ++ [.cat request] }
      request.remotePath = object? { other with requests := other.requests ++ [.cat request] }
        request.remotePath := by
    simp only [object?, same]
  simp only [serve, serveOpening]
  rw [alike]
  split
  · exact ⟨rfl, rfl⟩
  · exact ⟨rfl, rfl⟩

theorem accept_of_faultless {store : ObjectStore} (faultless : store.faults = [])
    (serving : store.isStopped = false) :
    store.accept = (.ok ⟨[], .silence⟩,
      { store with lines := store.lines ++ [⟨[], .opening none⟩] }) := by
  obtain ⟨objects, requests, faults, fragmentSize, isStopped, lines⟩ := store
  cases faultless
  cases serving
  rfl

/-- A store without faults answers each question by its objects, which no question changes. -/
def impartial {config : ClientConfig} {chunks : List Chunk}
    (understands : UnderstandsDownload config chunks)
    (filled : ∀ chunk ∈ chunks, chunk.isEmpty = false) (objects : List (String × Bytes)) :
    Impartial ObjectStore config chunks where
  greeting := .ok ⟨[], .silence⟩
  reply message := (serve message (.opening none) { empty with objects }).reaction
  ready count store := store.lines.length = count ∧ store.objects = objects ∧ store.faults = [] ∧
    store.isStopped = false
  awaits connection store := store.lines[connection]? = some ⟨[], .opening none⟩
  greets := by
    rintro count store ⟨_, _, faultless, serving⟩
    change store.accept.1 = _
    rw [accept_of_faultless faultless serving]
  refusing := by
    intro count store error impossible
    cases impossible
  accepting := by
    rintro count store opening _ ⟨rfl, same, faultless, serving⟩
    have accepted := accept_of_faultless faultless serving
    change Peer.accept store.lines.length store = _ at accepted
    rw [accepted]
    exact ⟨⟨List.length_append, same, faultless, serving⟩, List.getElem?_concat_length⟩
  replies := by
    rintro count store connection opening greeting ⟨rfl, same, faultless, serving⟩ waiting chunk
      listed offset
    cases greeting
    have positive : 0 < chunk.byteLength.toNat := by
      have nonempty := filled chunk listed
      rw [Chunk.isEmpty, beq_eq_false_iff_ne, Ne, ← UInt64.toNat_inj] at nonempty
      exact Nat.pos_of_ne_zero nonempty
    have fits : (question config chunk offset).encode.length ≤ Wire.maximumSize := by
      rw [length_encode_question]
      exact understands.within chunk listed 0 positive
    have alike : store.objects = ({ empty with objects } : ObjectStore).objects := same
    obtain ⟨answer, noted⟩ := serve_cat_eq
      (.resuming chunk.remotePath chunk.encrypted (UInt64.ofNat offset) config.tableSpace) none
      alike
    have heard := hear_encode
      (isNulFree_question offset (understands.paths chunk listed) understands.space) fits
      (by decide) waiting
    change Peer.hear connection (question config chunk offset).encode store = _ at heard
    simp only [Wire.writeAll_nil, heard]
    change (serve (question config chunk offset) (.opening none) store).store = _ at noted
    rw [noted]
    refine ⟨answer, ⟨List.length_set, same, faultless, serving⟩, ?_⟩
    intro other apart waiting
    exact (List.getElem?_set_ne (Ne.symm apart)).trans waiting
  releasing := by
    rintro count store connection ⟨length, rest⟩
    exact ⟨List.length_set.trans length, rest⟩
  acceptingAside := by
    rintro count store other ⟨rfl, _, faultless, serving⟩ waiting
    change store.accept.2.lines[_]? = _
    rw [accept_of_faultless faultless serving]
    obtain ⟨inside, _⟩ := List.getElem?_eq_some_iff.mp waiting
    exact (List.getElem?_append_left inside).trans waiting
  releasingAside := by
    intro count store connection other _ apart waiting
    exact (List.getElem?_set_ne (Ne.symm apart)).trans waiting

end ObjectStore

end SegmentOffload
