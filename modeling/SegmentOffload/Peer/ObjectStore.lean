import SegmentOffload.ClientError
import SegmentOffload.Chunk
import SegmentOffload.Network

/-!
A proxy that keeps its objects in memory.

It serves one request on each connection, records every message it understands, and hangs up when it
is done or when a message is malformed or out of place.  An upload becomes an object only when it is
complete.  Faults can be set for connections to come; each connection takes the first one that is
left.
-/

namespace SegmentOffload

open Wire (Message CatRequest PutRequest DeleteRequest ObjectMeta)

/-- How the store misbehaves on one connection. -/
inductive Fault where
  /-- Hang up after so many bytes of the object, in whichever direction it goes. -/
  | dropAfter (count : Nat)
  /-- Acknowledge with a message that nobody expects. -/
  | wrongReply
  /-- Hang up before anything is read. -/
  | hangUp
deriving DecidableEq, Repr

inductive Serving where
  | opening (fault : Option Fault)
  | uploading (request : PutRequest) (received : Bytes) (fault : Option Fault)
  | removing (request : DeleteRequest) (fault : Option Fault)
  | finished
deriving DecidableEq, Repr

/-- One connection, seen from the store. -/
structure StoreLine where
  /-- Bytes that do not yet make a message. -/
  buffer : Bytes
  serving : Serving

structure ObjectStore where
  /-- The objects in the order of their paths, each path once. -/
  objects : List (String × Bytes)
  /-- Every message that was understood, in order. -/
  requests : List Message
  /-- The faults that are left. -/
  faults : List Fault
  /-- How many entries one part of a listing holds. -/
  fragmentSize : Nat
  isStopped : Bool
  lines : List StoreLine

namespace ObjectStore

def empty : ObjectStore where
  objects := []
  requests := []
  faults := []
  fragmentSize := 2
  isStopped := false
  lines := []

/-! ### Objects -/

def insertInto (path : String) (data : Bytes) : List (String × Bytes) → List (String × Bytes)
  | [] => [(path, data)]
  | first :: rest =>
    if path < first.1 then (path, data) :: first :: rest
    else if path = first.1 then (path, data) :: rest
    else first :: insertInto path data rest

def insert (path : String) (data : Bytes) (store : ObjectStore) : ObjectStore :=
  { store with objects := insertInto path data store.objects }

def object? (store : ObjectStore) (path : String) : Option Bytes :=
  (store.objects.find? fun object => object.1 == path).map Prod.snd

def listing (store : ObjectStore) (start : String) : List ObjectMeta :=
  (store.objects.filter fun object => beginsWith start object.1).map fun object =>
    ⟨object.1, UInt64.ofNat object.2.length⟩

/-- Remove what a request names, when it is confirmed. -/
def remove (request : DeleteRequest) (store : ObjectStore) : ObjectStore :=
  if request.confirm then
    let isNamed (path : String) :=
      if request.garbage then beginsWith request.remotePath path else path = request.remotePath
    { store with objects := store.objects.filter fun object => !isNamed object.1 }
  else store

/-- Store pieces of data, one chunk for each length, and describe the chunks. -/
def insertChunks (filePath : String) (data : Bytes) (lengths : List Nat) (store : ObjectStore) :
    List Chunk × ObjectStore :=
  let chunksFrom := lengths.foldl
    (fun (chunks, offset, store) length =>
      let modificationCount := UInt64.ofNat (chunks.length + 1)
      let remotePath := chunkPath filePath modificationCount 0
      let chunk : Chunk :=
        { modificationCount
          logPosition := 0
          remotePath
          byteLength := UInt64.ofNat length
          startOffset := UInt64.ofNat offset
          encrypted := false }
      (chunks ++ [chunk], offset + length,
        ObjectStore.insert remotePath ((data.drop offset).take length) store))
    (([] : List Chunk), 0, store)
  (chunksFrom.1, chunksFrom.2.2)

/-- Set the number of entries in one part of a listing, at least one. -/
def setFragmentSize (size : Nat) (store : ObjectStore) : ObjectStore :=
  { store with fragmentSize := max 1 size }

def addFault (fault : Fault) (store : ObjectStore) : ObjectStore :=
  { store with faults := store.faults ++ [fault] }

/-! ### Serving -/

structure Service where
  /-- The bytes of the reply, as they are written one after the other. -/
  replies : List Bytes
  serving : Serving
  store : ObjectStore

def acknowledgement (fault : Option Fault) : Bytes :=
  match fault with
  | some .wrongReply => (Message.copyData (textBytes "surprise")).encode
  | _ => Message.readyForQuery.encode

def refuse (store : ObjectStore) : Service := ⟨[], .finished, store⟩

/-- The bytes of an object from an offset on, as far as a fault lets them through. -/
def streamed (object : Bytes) (request : CatRequest) (fault : Option Fault) : Bytes :=
  let tail := object.drop request.startOffset.toNat
  match fault with
  | some (.dropAfter count) => tail.take count
  | _ => tail

def parts {α : Type} (size : Nat) : (fuel : Nat) → List α → List (List α)
  | 0, _ => []
  | _ + 1, [] => []
  | fuel + 1, items => items.take size :: parts size fuel (items.drop size)

def fragments (store : ObjectStore) (start : String) : List (List ObjectMeta) :=
  let entries := store.listing start
  parts store.fragmentSize entries.length entries

def serveOpening (message : Message) (fault : Option Fault) (store : ObjectStore) : Service :=
  match message with
  | .cat request =>
    match store.object? request.remotePath with
    | none => refuse store
    | some object => ⟨[streamed object request fault], .finished, store⟩
  | .put request => ⟨[], .uploading request [] fault, store⟩
  | .delete request => ⟨[], .removing request fault, store⟩
  | .list start =>
    ⟨(store.fragments start).map (fun part => (Message.objectMeta part).encode) ++
      [acknowledgement fault], .finished, store⟩
  | _ => refuse store

def cutsUpload (fault : Option Fault) (received : Nat) : Bool :=
  match fault with
  | some (.dropAfter count) => count ≤ received
  | _ => false

def serveUpload (message : Message) (request : PutRequest) (received : Bytes)
    (fault : Option Fault) (store : ObjectStore) : Service :=
  match message with
  | .copyData data =>
    let received := received ++ data
    if cutsUpload fault received.length then refuse store
    else ⟨[], .uploading request received fault, store⟩
  | .commandComplete =>
    ⟨[acknowledgement fault], .finished, store.insert request.remotePath received⟩
  | _ => refuse store

def serveRemoval (message : Message) (request : DeleteRequest) (fault : Option Fault)
    (store : ObjectStore) : Service :=
  match message with
  | .commandComplete => ⟨[acknowledgement fault], .finished, store.remove request⟩
  | _ => refuse store

def serve (message : Message) (serving : Serving) (store : ObjectStore) : Service :=
  let store := { store with requests := store.requests ++ [message] }
  match serving with
  | .opening fault => serveOpening message fault store
  | .uploading request received fault => serveUpload message request received fault store
  | .removing request fault => serveRemoval message request fault store
  | .finished => refuse store

/-- Serve all messages that bytes make, and keep the rest of the bytes. -/
def serveAll : (fuel : Nat) → Bytes → Serving → ObjectStore → Service × Bytes
  | 0, buffer, serving, store => (⟨[], serving, store⟩, buffer)
  | fuel + 1, buffer, serving, store =>
    if serving = .finished then (refuse store, [])
    else
      match Wire.readFrame [.bytes buffer] with
      | (.error (.io _), _) => (⟨[], serving, store⟩, buffer)
      | (.error (.malformed _), _) => (refuse store, [])
      | (.ok frame, _) =>
        match frame.message with
        | .error _ => (refuse store, [])
        | .ok message =>
          let first := serve message serving store
          let rest := buffer.drop frame.header.totalLength.toNat
          let (later, left) := serveAll fuel rest first.serving first.store
          ({ later with replies := first.replies ++ later.replies }, left)

/-! ### As a peer -/

def Service.reaction (service : Service) : Reaction where
  arrivals := (service.replies.filter fun reply => !reply.isEmpty).map .bytes
  hangsUp := service.serving = .finished

def accept (store : ObjectStore) : Except IoError Opening × ObjectStore :=
  if store.isStopped then (.error .notFound, store)
  else
    let fault := store.faults.head?
    let serving := if fault = some .hangUp then .finished else .opening fault
    (.ok ⟨[], [], serving = .finished⟩,
      { store with faults := store.faults.drop 1, lines := store.lines ++ [⟨[], serving⟩] })

def hear (connection : Nat) (data : Bytes) (store : ObjectStore) : Reaction × ObjectStore :=
  match store.lines[connection]? with
  | none => (.silence, store)
  | some line =>
    let buffer := line.buffer ++ data
    let (service, left) := serveAll (buffer.length + 1) buffer line.serving store
    (service.reaction,
      { service.store with
        lines := service.store.lines.set connection ⟨left, service.serving⟩ })

def release (connection : Nat) (store : ObjectStore) : ObjectStore :=
  { store with lines := store.lines.set connection ⟨[], .finished⟩ }

instance : Peer ObjectStore where
  accept := fun _ store => store.accept
  hear := hear
  release := release

end ObjectStore

end SegmentOffload
