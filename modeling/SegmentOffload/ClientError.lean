import SegmentOffload.Wire.Message

/-!
What can go wrong between a client and the proxy.

Every failure names what it was about.  Only a failed connection and a failed transfer may be tried
again; everything else would fail in the same way.
-/

namespace SegmentOffload

open Wire (ObjectMeta FrameError)

inductive ClientError where
  | connect (socket : String) (cause : IoError)
  /-- The proxy, or a caller, did something that the protocol has no place for. -/
  | protocolViolation (reason : String)
  | transport (action remotePath : String) (cause : IoError)
  /-- Two chunks of one modification count start at different offsets. -/
  | corruption (modificationCount firstOffset secondOffset : UInt64)
  | retryExhausted (remotePath : String) (offset : UInt64) (attempts : Nat) (lastError : String)
  /-- A listing ended early, after the given entries. -/
  | incompleteListing (start : String) (received : List ObjectMeta) (reason : String)
  | config (problem : String)
  | catalog (problem : String)
  | io (cause : IoError)
deriving DecidableEq, Repr

namespace ClientError

def message : ClientError → String
  | connect socket cause => s!"cannot connect to proxy socket {socket}: {cause.message}"
  | protocolViolation reason => s!"protocol violation: {reason}"
  | transport action remotePath cause =>
    s!"transport failure while {action} for {remotePath}: {cause.message}"
  | corruption modificationCount firstOffset secondOffset =>
    s!"chunk metadata corrupted: modification count {modificationCount} claims start offsets " ++
      s!"{firstOffset} and {secondOffset}"
  | retryExhausted remotePath offset attempts lastError =>
    s!"gave up reading {remotePath} at offset {offset} after {attempts} attempts: {lastError}"
  | incompleteListing start received reason =>
    s!"listing of {start} aborted after {received.length} entries: {reason}"
  | config problem => s!"configuration error: {problem}"
  | catalog problem => s!"catalog error: {problem}"
  | io cause => s!"I/O error: {cause.message}"

def kind : ClientError → String
  | connect .. => "Connect"
  | protocolViolation .. => "ProtocolViolation"
  | transport .. => "Transport"
  | corruption .. => "Corruption"
  | retryExhausted .. => "RetryExhausted"
  | incompleteListing .. => "IncompleteListing"
  | config .. => "Config"
  | catalog .. => "Catalog"
  | io .. => "Io"

def cause? : ClientError → Option IoError
  | connect _ cause => some cause
  | transport _ _ cause => some cause
  | io cause => some cause
  | _ => none

def isRetryable : ClientError → Bool
  | connect .. => true
  | transport .. => true
  | _ => false

end ClientError

/-- A message that could not be read is a failed transfer or a breach of the protocol. -/
def Wire.FrameError.toClientError (action remotePath : String) : FrameError → ClientError
  | .io error => .transport action remotePath error
  | .malformed reason => .protocolViolation reason

end SegmentOffload
