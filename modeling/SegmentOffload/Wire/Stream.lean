import SegmentOffload.Wire.Decoding

/-!
Messages over streams that deliver and accept bytes in pieces.

What a reader will meet is a list of arrivals and what a writer will meet is a list of turns; after
the last arrival the stream has ended, and after the last turn every write goes through.  Reading a
message takes exactly its declared number of bytes however they are cut, and writing one offers
every byte once and in order; interruptions are waited out on both sides.
-/

namespace SegmentOffload.Wire

/-- What the next reads from a stream meet. -/
inductive Arrival where
  /-- Bytes, handed out over as many reads as it takes. -/
  | bytes (data : Bytes)
  | interrupted
  | fail (error : IoError)
deriving DecidableEq, Repr

/-- How the next call that moves bytes goes. -/
inductive Turn where
  /-- It moves all that is offered. -/
  | whole
  /-- It moves at most so many bytes. -/
  | upTo (limit : Nat)
  | interrupted
  | fail (error : IoError)
deriving DecidableEq, Repr

/-! ### Reading -/

/-- What one read gives.  No bytes for a positive limit mean that the stream has ended. -/
inductive ReadResult where
  | bytes (data : Bytes)
  | interrupted
  | failed (error : IoError)
deriving DecidableEq, Repr

/-- Read once, at most `limit` bytes and never across two arrivals. -/
def readOnce (limit : Nat) (arrivals : List Arrival) : ReadResult × List Arrival :=
  if limit = 0 then (.bytes [], arrivals)
  else
    match arrivals with
    | [] => (.bytes [], [])
    | .bytes data :: later =>
      match data.drop limit with
      | [] => (.bytes data, later)
      | rest => (.bytes (data.take limit), .bytes rest :: later)
    | .interrupted :: later => (.interrupted, later)
    | .fail error :: later => (.failed error, later)

/-- Read once, at most `limit` bytes, waiting out interruptions. -/
def readPatiently (limit : Nat) : List Arrival → Except IoError Bytes × List Arrival
  | .interrupted :: later => readPatiently limit later
  | arrivals =>
    match readOnce limit arrivals with
    | (.bytes data, later) => (.ok data, later)
    | (.interrupted, later) => (.ok [], later)
    | (.failed error, later) => (.error error, later)

theorem readOnce_length_le {limit : Nat} {arrivals later : List Arrival} {data : Bytes}
    (read : readOnce limit arrivals = (.bytes data, later)) : data.length ≤ limit := by
  unfold readOnce at read
  split at read
  · cases read
    exact Nat.zero_le _
  · split at read
    · cases read
      exact Nat.zero_le _
    · rename_i whole rest
      split at read
      · rename_i nothing
        cases read
        exact List.drop_eq_nil_iff.mp nothing
      · cases read
        exact List.length_take_le _ _
    · cases read
    · cases read

theorem readPatiently_length_le {limit : Nat} {arrivals later : List Arrival} {data : Bytes}
    (read : readPatiently limit arrivals = (.ok data, later)) : data.length ≤ limit := by
  induction arrivals with
  | nil =>
    unfold readPatiently readOnce at read
    split at read <;> cases read <;> simp_all
  | cons first rest ih =>
    by_cases interrupted : first = .interrupted
    · rw [interrupted, readPatiently] at read
      exact ih read
    · rw [readPatiently] at read
      · split at read
        · rename_i once
          cases read
          exact readOnce_length_le once
        · cases read
          exact Nat.zero_le _
        · cases read
      · intro later same
        cases same
        exact interrupted rfl

def readExact : (wanted : Nat) → List Arrival → Except IoError Bytes × List Arrival
  | 0, arrivals => (.ok [], arrivals)
  | _, [] => (.error .unexpectedEnd, [])
  | wanted, .bytes data :: later =>
    if data.isEmpty then (.error .unexpectedEnd, later)
    else if wanted < data.length then
      (.ok (data.take wanted), .bytes (data.drop wanted) :: later)
    else
      match readExact (wanted - data.length) later with
      | (.ok more, left) => (.ok (data ++ more), left)
      | (.error error, left) => (.error error, left)
  | wanted, .interrupted :: later => readExact wanted later
  | _, .fail error :: later => (.error error, later)

/-- Read one frame: its length, then as many bytes as the length says. -/
def readFrame (arrivals : List Arrival) : Except FrameError Frame × List Arrival :=
  match readExact 8 arrivals with
  | (.error error, later) => (.error (.io error), later)
  | (.ok length, later) =>
    match checkLength (bytesWord length) with
    | .error malformed => (.error (.malformed malformed.message), later)
    | .ok declared =>
      match readExact (declared.toNat - 8) later with
      | (.error error, later) => (.error (.io error), later)
      | (.ok rest, later) =>
        match Frame.ofRest declared rest with
        | .ok frame => (.ok frame, later)
        | .error malformed => (.error (.malformed malformed.message), later)

def readMessage (arrivals : List Arrival) : Except FrameError Message × List Arrival :=
  match readFrame arrivals with
  | (.error error, later) => (.error error, later)
  | (.ok frame, later) =>
    match frame.message with
    | .ok message => (.ok message, later)
    | .error malformed => (.error (.malformed malformed.message), later)

def arrivingSize : List Arrival → Nat
  | [] => 0
  | .bytes data :: later => data.length + arrivingSize later
  | _ :: later => arrivingSize later

/-! ### Writing -/

structure Written where
  outcome : Except IoError Unit
  /-- The bytes that were taken, in order. -/
  accepted : Bytes
  /-- The turns that are left. -/
  turns : List Turn

/-- Offer all bytes, over as many writes as it takes.  A write that takes none is a failure. -/
def writeAll : Bytes → List Turn → Written
  | [], turns => ⟨.ok (), [], turns⟩
  | data, [] => ⟨.ok (), data, []⟩
  | data, .whole :: later => ⟨.ok (), data, later⟩
  | data, .upTo limit :: later =>
    if limit = 0 then ⟨.error .nothingWritten, [], later⟩
    else
      let rest := writeAll (data.drop limit) later
      { rest with accepted := data.take limit ++ rest.accepted }
  | data, .interrupted :: later => writeAll data later
  | _, .fail error :: later => ⟨.error error, [], later⟩

/-- Write one frame and flush; the flush may fail in its turn. -/
def writeFrame (frame : Bytes) (turns : List Turn) (flush : Except IoError Unit) : Written :=
  let written := writeAll frame turns
  match written.outcome with
  | .ok () => { written with outcome := flush }
  | .error _ => written

end SegmentOffload.Wire
