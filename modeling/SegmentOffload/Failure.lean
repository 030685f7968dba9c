import SegmentOffload.ClientError
import SegmentOffload.Disk
import SegmentOffload.Overflow

/-!
Failures of whole operations, with what was being done around them.

A failure is a cause under a stack of remarks, outermost first; telling it in full lists the
remarks, the cause, and what lies behind the cause.  A failure may keep a temporary file, which is
there until somebody lets go of the failure.  An overflow is not a failure that can be remarked on:
it ends everything.
-/

namespace SegmentOffload

/-- What an operation failed of, before any remark. -/
inductive Cause where
  | client (error : ClientError)
  | io (error : IoError)
  /-- A finished temporary file could not take its final place.  The cause keeps it. -/
  | persist (error : IoError) (temporary : Location)
  | stated (text : String)
deriving DecidableEq, Repr

namespace Cause

/-- The cause's texts, from its own to the innermost one. -/
def texts : Cause → List String
  | client error => error.message :: (error.cause?.map IoError.message).toList
  | io error => [error.message]
  | persist error _ => ["failed to persist temporary file: " ++ error.message, error.message]
  | stated text => [text]

def kind : Cause → String
  | client error => error.kind
  | io _ => "Io"
  | persist .. => "Io"
  | stated _ => "Other"

end Cause

inductive Failure where
  | failed (remarks : List String) (cause : Cause)
  | overflow (overflow : Overflow)
deriving DecidableEq, Repr

namespace Failure

def ofClient (error : ClientError) : Failure := failed [] (.client error)
def ofIo (error : IoError) : Failure := failed [] (.io error)
def stated (text : String) : Failure := failed [] (.stated text)

def remark (text : String) : Failure → Failure
  | failed remarks cause => failed (text :: remarks) cause
  | overflow kind => overflow kind

def chain : Failure → List String
  | failed remarks cause => remarks ++ cause.texts
  | overflow kind => [kind.message]

def message (failure : Failure) : String :=
  failure.chain.headD ""

def account (failure : Failure) : String :=
  ": ".intercalate failure.chain

def report (failure : Failure) : String :=
  "Error: " ++ failure.message ++ "\n" ++
    String.join (failure.chain.tail.map fun text => "  caused by: " ++ text ++ "\n")

def exitCode : Failure → Nat
  | failed _ _ => 1
  | overflow _ => 101

/-- The temporary file that a failure keeps. -/
def kept? : Failure → Option Location
  | failed _ (.persist _ temporary) => some temporary
  | _ => none

/-- Let go of a failure, and so remove the file that it keeps. -/
def letGo (failure : Failure) (disk : Disk) : Disk :=
  match failure.kept? with
  | some temporary => disk.erase temporary
  | none => disk

end Failure

def Except.remark {α : Type} (text : String) : Except Failure α → Except Failure α
  | .ok value => .ok value
  | .error failure => .error (failure.remark text)

end SegmentOffload
