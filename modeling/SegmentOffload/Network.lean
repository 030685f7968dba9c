import SegmentOffload.Disk

/-!
Connections to the peer behind the sockets of a disk.

The peer is whatever answers: it accepts or refuses a connection, reacts to the bytes it hears, and
learns when the client lets go.  The network keeps one line for each connection ever made, with the
bytes that wait to be read, the way the coming writes will go, and everything that was sent.  A line
that the client has released moves no more bytes; after the peer has hung up, what it sent can still
be read, and then the line has ended.
-/

namespace SegmentOffload

open Wire (Arrival Turn)

structure Reaction where
  /-- What the client will read. -/
  arrivals : List Arrival
  hangsUp : Bool

def Reaction.silence : Reaction := ⟨[], false⟩

structure Opening where
  /-- How the client's writes will go. -/
  turns : List Turn
  reaction : Reaction

/-- Something that answers connections, which are numbered from zero. -/
class Peer (π : Type) where
  accept : (connection : Nat) → π → Except IoError Opening × π
  /-- Hear bytes that the client sent, as they were accepted by one write after the other. -/
  hear : (connection : Nat) → Bytes → π → Reaction × π
  /-- Notice that the client has let go of a connection. -/
  release : (connection : Nat) → π → π

/-- One connection, seen from the client. -/
structure Line where
  arrivals : List Arrival
  turns : List Turn
  /-- Whether the peer has hung up. -/
  hungUp : Bool
  /-- Whether the client still holds the connection. -/
  isOpen : Bool
  /-- What was sent, the last piece first. -/
  pieces : List Bytes

namespace Line

def sent (line : Line) : Bytes :=
  line.pieces.reverse.flatten

def ofOpening (opening : Opening) : Line where
  arrivals := opening.reaction.arrivals
  turns := opening.turns
  hungUp := opening.reaction.hangsUp
  isOpen := true
  pieces := []

def react (line : Line) (reaction : Reaction) : Line :=
  { line with
    arrivals := line.arrivals ++ reaction.arrivals
    hungUp := line.hungUp || reaction.hangsUp }

end Line

/-- A peer, and the connections made to it. -/
structure Network (π : Type) where
  peer : π
  lines : List Line

namespace Network

variable {π : Type} [Peer π]

def connect (disk : Disk) (socket : String) (network : Network π) :
    Except IoError Nat × Network π :=
  match disk.reachSocket socket with
  | .error error => (.error error, network)
  | .ok () =>
    match Peer.accept network.lines.length network.peer with
    | (.error error, peer) => (.error error, { network with peer })
    | (.ok opening, peer) =>
      (.ok network.lines.length,
        { peer, lines := network.lines ++ [.ofOpening opening] })

def openLine? (connection : Nat) (network : Network π) : Option Line :=
  network.lines[connection]?.filter Line.isOpen

def isOpen (connection : Nat) (network : Network π) : Bool :=
  (network.openLine? connection).isSome

def setLine (connection : Nat) (line : Line) (network : Network π) : Network π :=
  { network with lines := network.lines.set connection line }

/-- Send bytes.  What the line accepts is heard by the peer, also when it does not accept all. -/
def send (connection : Nat) (data : Bytes) (network : Network π) :
    Except IoError Unit × Network π :=
  match network.openLine? connection with
  | none => (.error .sessionClosed, network)
  | some line =>
    if data.isEmpty then (.ok (), network)
    else if line.hungUp then (.error .brokenPipe, network)
    else
      let written := Wire.writeAll data line.turns
      let line :=
        { line with turns := written.turns, pieces := written.accepted :: line.pieces }
      if written.accepted.isEmpty then (written.outcome, network.setLine connection line)
      else
        let (reaction, peer) := Peer.hear connection written.accepted network.peer
        (written.outcome, { network with peer }.setLine connection (line.react reaction))

def receive (connection : Nat) (network : Network π) :
    Except Wire.FrameError Wire.Message × Network π :=
  match network.openLine? connection with
  | none => (.error (.io .sessionClosed), network)
  | some line =>
    let (message, arrivals) := Wire.readMessage line.arrivals
    (message, network.setLine connection { line with arrivals })

/-- Read bytes as they come, at most so many; none mean that the line has ended. -/
def read (connection limit : Nat) (network : Network π) : Except IoError Bytes × Network π :=
  match network.openLine? connection with
  | none => (.error .sessionClosed, network)
  | some line =>
    let (data, arrivals) := Wire.readPatiently limit line.arrivals
    (data, network.setLine connection { line with arrivals })

omit [Peer π] in
theorem read_length_le {connection limit : Nat} {network later : Network π} {data : Bytes}
    (took : network.read connection limit = (.ok data, later)) : data.length ≤ limit := by
  simp only [read] at took
  split at took
  · cases took
  · cases read : Wire.readPatiently limit (Line.arrivals ‹Line›) with
    | mk outcome arrivals =>
      rw [read] at took
      cases took
      exact Wire.readPatiently_length_le read

/-- Let go of a connection; doing so again changes nothing. -/
def release (connection : Nat) (network : Network π) : Network π :=
  match network.openLine? connection with
  | none => network
  | some line =>
    { network with peer := Peer.release connection network.peer }.setLine connection
      { line with isOpen := false }

end Network

end SegmentOffload
