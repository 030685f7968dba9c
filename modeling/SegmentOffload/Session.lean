import SegmentOffload.ClientError
import SegmentOffload.Network
import SegmentOffload.Text.Quoted

/-!
Sessions: one connection for one request.

A session belongs to the object that it serves, which errors name.  After any failure, and after any
answer but the expected one, the connection is let go and the session is of no more use.
-/

namespace SegmentOffload

open Wire (Message)

structure Session where
  socket : String
  remotePath : String
  /-- The number of the connection. -/
  connection : Nat
deriving DecidableEq, Repr

namespace Session

variable {π : Type} [Peer π]

/-- Connect to the socket at a path, for an object. -/
def connect (disk : Disk) (socket remotePath : String) (network : Network π) :
    Except ClientError Session × Network π :=
  match network.connect disk socket with
  | (.ok connection, network) => (.ok ⟨socket, remotePath, connection⟩, network)
  | (.error error, network) => (.error (.connect socket error), network)

def isOpen (session : Session) (network : Network π) : Bool :=
  network.isOpen session.connection

/-- Let go of the connection; doing so again changes nothing. -/
def close (session : Session) (network : Network π) : Network π :=
  network.release session.connection

def send (session : Session) (frame : Bytes) (action : String) (network : Network π) :
    Except ClientError Unit × Network π :=
  match network.send session.connection frame with
  | (.ok (), network) => (.ok (), network)
  | (.error error, network) =>
    (.error (.transport action session.remotePath error), session.close network)

def receive (session : Session) (action : String) (network : Network π) :
    Except ClientError Message × Network π :=
  match network.receive session.connection with
  | (.ok message, network) => (.ok message, network)
  | (.error error, network) =>
    (.error (error.toClientError action session.remotePath), session.close network)

def expectReady (session : Session) (action : String) (network : Network π) :
    Except ClientError Unit × Network π :=
  match session.receive action network with
  | (.error error, network) => (.error error, network)
  | (.ok .readyForQuery, network) => (.ok (), network)
  | (.ok other, network) =>
    (.error (.protocolViolation
      (s!"expected ReadyForQuery while {action} for {session.remotePath}, got " ++
        other.tag.name)),
      session.close network)

/-- Say that the request is complete, and wait for the acknowledgement. -/
def complete (session : Session) (action : String) (network : Network π) :
    Except ClientError Unit × Network π :=
  match session.send Message.commandComplete.encode action network with
  | (.error error, network) => (.error error, network)
  | (.ok (), network) => session.expectReady action network

/-- Read bytes as they come, at most so many. -/
def read (session : Session) (limit : Nat) (network : Network π) :
    Except IoError Bytes × Network π :=
  network.read session.connection limit

def describe (session : Session) (network : Network π) : String :=
  "ProxySession \x7b socket: " ++ quotedPath session.socket ++ ", remote_path: " ++
    quoted session.remotePath ++ ", open: " ++
    (if session.isOpen network then "true" else "false") ++ " \x7d"

end Session

end SegmentOffload
