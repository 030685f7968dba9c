import SegmentOffload.Network

/-!
A peer that follows a script.

Each connection is served by the next entry of the script: the peer reads what the entry asks for
and nothing more, replies, and hangs up unless it is to hold the line.  After the last entry
connections are refused.
-/

namespace SegmentOffload

/-- How much a scripted peer reads before it replies. -/
inductive Demand where
  | frames (count : Nat)
  | bytes (count : Nat)
deriving DecidableEq, Repr

namespace Demand

/-- The length of the bytes that some frames take, once all of them are there. -/
def framesLength? : (count : Nat) → Bytes → Option Nat
  | 0, _ => some 0
  | count + 1, heard =>
    if heard.length < 8 then none
    else
      let length := max 8 (bytesWord (heard.take 8)).toNat
      if heard.length < length then none
      else (framesLength? count (heard.drop length)).map (length + ·)

/-- The length of what is asked for, once all of it is there. -/
def length? (demand : Demand) (heard : Bytes) : Option Nat :=
  match demand with
  | frames count => framesLength? count heard
  | bytes count => if count ≤ heard.length then some count else none

end Demand

structure ScriptEntry where
  demand : Demand
  reply : Bytes
  /-- Whether the peer keeps the line after its reply. -/
  holds : Bool

/-- One connection, seen from the peer. -/
structure ScriptedLine where
  entry : ScriptEntry
  /-- What the peer has read. -/
  heard : Bytes
  /-- Whether the peer reads no more. -/
  isDone : Bool

structure ScriptedPeer where
  /-- The entries that are left. -/
  script : List ScriptEntry
  lines : List ScriptedLine

namespace ScriptedPeer

def ofScript (script : List ScriptEntry) : ScriptedPeer := ⟨script, []⟩

def listen (line : ScriptedLine) : Reaction × ScriptedLine :=
  match line.entry.demand.length? line.heard with
  | none => (.silence, line)
  | some length =>
    ({ arrivals := if line.entry.reply.isEmpty then [] else [.bytes line.entry.reply]
       hangsUp := !line.entry.holds },
      { line with heard := line.heard.take length, isDone := true })

def accept (peer : ScriptedPeer) : Except IoError Opening × ScriptedPeer :=
  match peer.script with
  | [] => (.error .notFound, peer)
  | entry :: script =>
    let (reaction, line) := listen ⟨entry, [], false⟩
    (.ok ⟨[], reaction⟩, ⟨script, peer.lines ++ [line]⟩)

def hear (connection : Nat) (data : Bytes) (peer : ScriptedPeer) : Reaction × ScriptedPeer :=
  match peer.lines[connection]? with
  | none => (.silence, peer)
  | some line =>
    if line.isDone then (.silence, peer)
    else
      let (reaction, line) := listen { line with heard := line.heard ++ data }
      (reaction, { peer with lines := peer.lines.set connection line })

instance : Peer ScriptedPeer where
  accept := fun _ peer => peer.accept
  hear := hear
  release := fun _ peer => peer

end ScriptedPeer

end SegmentOffload
