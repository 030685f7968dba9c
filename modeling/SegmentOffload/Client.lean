import SegmentOffload.Journal
import SegmentOffload.Session

/-!
What a client works with: the network, and the journal of what it reported.
-/

namespace SegmentOffload

structure Client (π : Type) where
  network : Network π
  /-- Every report, in order. -/
  journal : List LogEntry

namespace Client

variable {π : Type}

def report (entry : LogEntry) (client : Client π) : Client π :=
  { client with journal := client.journal ++ [entry] }

def reportAll (entries : List LogEntry) (client : Client π) : Client π :=
  { client with journal := client.journal ++ entries }

end Client

end SegmentOffload
