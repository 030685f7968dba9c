import SegmentOffload.Network

/-!
The peer of a program that has no sockets: every attempt to reach it fails.
-/

namespace SegmentOffload

structure Unreachable where
deriving DecidableEq, Repr

namespace Unreachable

def refusal : IoError := .other "Unsupported" "Operation not supported (os error 95)"

instance : Peer Unreachable where
  accept _ peer := (.error refusal, peer)
  hear _ _ peer := (.silence, peer)
  release _ peer := peer

end Unreachable

end SegmentOffload
