import SegmentOffload.Client
import SegmentOffload.Disk
import SegmentOffload.Failure

/-!
What operations on segment files work with: a client of the proxy, and the local disk.
-/

namespace SegmentOffload

structure Host (π : Type) where
  client : Client π
  disk : Disk

namespace Host

variable {π : Type}

def reportAll (entries : List LogEntry) (host : Host π) : Host π :=
  { host with client := host.client.reportAll entries }

end Host

end SegmentOffload
