import SegmentOffload.Client
import SegmentOffload.ClientConfig

/-!
Asking the proxy to remove objects: a single one, or the garbage below a path.
-/

namespace SegmentOffload

open Wire (Message DeleteRequest)

inductive RemovalMode where
  /-- Exactly the named object. -/
  | direct
  /-- Whatever nobody refers to any more below the named path.  Without confirmation the proxy only
  tells what it would remove. -/
  | garbage (segmentIndex : UInt32) (confirm : Bool)
deriving DecidableEq, Repr

namespace RemovalMode

variable {π : Type} [Peer π]

/-- The segment index of a request that belongs to no segment. -/
def noSegment : UInt64 := 0xFFFFFFFFFFFFFFFF

def request (mode : RemovalMode) (config : ClientConfig) (remotePath : String) : DeleteRequest :=
  match mode with
  | direct =>
    { remotePath, confirm := true, garbage := false, port := config.port
      segmentIndex := noSegment }
  | garbage segmentIndex confirm =>
    { remotePath, confirm, garbage := true, port := config.port
      segmentIndex := segmentIndex.toUInt64 }

def remove (mode : RemovalMode) (config : ClientConfig) (remotePath : String) (disk : Disk)
    (client : Client π) : Except ClientError Unit × Client π :=
  match Session.connect disk config.socketPath remotePath client.network with
  | (.error error, network) => (.error error, { client with network })
  | (.ok session, network) =>
    let frame := (Message.delete (mode.request config remotePath)).encode
    match session.send frame "requesting delete" network with
    | (.error error, network) => (.error error, { client with network })
    | (.ok (), network) =>
      let (outcome, network) := session.complete "finishing delete" network
      (outcome, { client with network := session.close network })

end RemovalMode

end SegmentOffload
