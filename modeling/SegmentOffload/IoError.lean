/-!
Failures of operating-system calls.

Each cause is a constructor; its wording and the name of its kind are functions of the cause.  A
failure that this library only passes on keeps the kind and text it came with.
-/

namespace SegmentOffload

/-- Why a call on a file or a socket failed. -/
inductive IoError where
  | notFound
  | alreadyExists
  | notADirectory
  | isADirectory
  | brokenPipe
  | connectionRefused
  | invalidArgument
  /-- A directory that is in use cannot be replaced. -/
  | busy
  | nameTooLong
  /-- Something that is reached by connecting cannot be opened as a file. -/
  | noDevice
  /-- A character that ends paths stands inside the path of a file. -/
  | nulInPath
  /-- A character that ends paths stands inside the path of a socket. -/
  | nulInSocketPath
  | socketPathTooLong
  /-- A stream ended inside something that has a fixed length. -/
  | unexpectedEnd
  /-- A write took none of the bytes offered. -/
  | nothingWritten
  /-- Bytes that should be text are not well-formed UTF-8. -/
  | invalidText
  /-- A session was used after its connection had been given up. -/
  | sessionClosed
  /-- The far end closed while bytes of a chunk were still owed. -/
  | endedInsideChunk
  | other (kind text : String)
deriving DecidableEq, Repr

namespace IoError

def message : IoError → String
  | notFound => "No such file or directory (os error 2)"
  | alreadyExists => "File exists (os error 17)"
  | notADirectory => "Not a directory (os error 20)"
  | isADirectory => "Is a directory (os error 21)"
  | brokenPipe => "Broken pipe (os error 32)"
  | connectionRefused => "Connection refused (os error 111)"
  | invalidArgument => "Invalid argument (os error 22)"
  | busy => "Device or resource busy (os error 16)"
  | nameTooLong => "File name too long (os error 36)"
  | noDevice => "No such device or address (os error 6)"
  | nulInPath => "file name contained an unexpected NUL byte"
  | nulInSocketPath => "paths must not contain interior null bytes"
  | socketPathTooLong => "path must be shorter than SUN_LEN"
  | unexpectedEnd => "failed to fill whole buffer"
  | nothingWritten => "failed to write whole buffer"
  | invalidText => "stream did not contain valid UTF-8"
  | sessionClosed => "session already closed"
  | endedInsideChunk => "proxy closed the stream before the chunk ended"
  | other _ text => text

def kind : IoError → String
  | notFound => "NotFound"
  | alreadyExists => "AlreadyExists"
  | notADirectory => "NotADirectory"
  | isADirectory => "IsADirectory"
  | brokenPipe => "BrokenPipe"
  | connectionRefused => "ConnectionRefused"
  | invalidArgument => "InvalidInput"
  | busy => "ResourceBusy"
  | nameTooLong => "InvalidFilename"
  | noDevice => "Uncategorized"
  | nulInPath => "InvalidInput"
  | nulInSocketPath => "InvalidInput"
  | socketPathTooLong => "InvalidInput"
  | unexpectedEnd => "UnexpectedEof"
  | nothingWritten => "WriteZero"
  | invalidText => "InvalidData"
  | sessionClosed => "NotConnected"
  | endedInsideChunk => "UnexpectedEof"
  | other kind _ => kind

end IoError

end SegmentOffload
