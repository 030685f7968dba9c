import SegmentOffload.Peer.ObjectStore

/-!
The store in memory, at its own pace.

What a client sends waits on the connection until the store takes it up, and the store may lag
behind: pieces go out well that are never taken up, and a client learns late that the store has
hung up.  How many pieces are taken up at the next events is laid down in advance; afterwards the
store is prompt.
-/

namespace SegmentOffload

/-- Hear pieces one after the other. -/
def ObjectStore.takeUp (connection : Nat) : List Bytes → ObjectStore → Reaction × ObjectStore
  | [], store => (.silence, store)
  | piece :: rest, store =>
    let (first, store) := store.hear connection piece
    let (others, store) := takeUp connection rest store
    (⟨first.arrivals ++ others.arrivals, first.hangsUp || others.hangsUp⟩, store)

structure PacedStore where
  store : ObjectStore
  /-- The pieces that were sent on each connection and not taken up yet. -/
  waiting : Nat → List Bytes
  /-- How many pieces are taken up at each event to come; all of them, when nothing is said. -/
  pace : List Nat

namespace PacedStore

/-- A store for which nothing waits. -/
def ofStore (store : ObjectStore) (pace : List Nat) : PacedStore := ⟨store, fun _ => [], pace⟩

def setWaiting (connection : Nat) (pieces : List Bytes) (paced : PacedStore) : PacedStore :=
  { paced with
    waiting := fun other => if other = connection then pieces else paced.waiting other }

/-- Take up as many of the pieces on a connection as the pace says, and leave the others there. -/
def proceed (connection : Nat) (pieces : List Bytes) (paced : PacedStore) :
    Reaction × PacedStore :=
  let count := paced.pace.headD pieces.length
  let (reaction, store) := paced.store.takeUp connection (pieces.take count)
  (reaction,
    { paced with store, pace := paced.pace.drop 1 }.setWaiting connection (pieces.drop count))

/-- A connection is there before the store takes it up, so even a store that hangs up at once may be
slow to do so. -/
def accept (connection : Nat) (paced : PacedStore) : Except IoError Opening × PacedStore :=
  match paced.store.accept with
  | (.error error, store) => (.error error, { paced with store })
  | (.ok opening, store) =>
    let reaction := if paced.pace.head? = some 0 then .silence else opening.reaction
    (.ok { opening with reaction },
      { paced with store, pace := paced.pace.drop 1 }.setWaiting connection [])

def hear (connection : Nat) (data : Bytes) (paced : PacedStore) : Reaction × PacedStore :=
  paced.proceed connection (paced.waiting connection ++ [data])

/-- What still waits when the client lets go can be taken up all the same. -/
def release (connection : Nat) (paced : PacedStore) : PacedStore :=
  let later := (paced.proceed connection (paced.waiting connection)).2
  if (later.waiting connection).isEmpty then
    { later with store := later.store.release connection }
  else later

instance : Peer PacedStore where
  accept := accept
  hear := hear
  release := release

end PacedStore

end SegmentOffload
