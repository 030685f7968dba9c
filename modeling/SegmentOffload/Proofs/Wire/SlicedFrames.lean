import SegmentOffload.Proofs.Wire.UnbrokenStreams

/-!
Frames cut out of their bytes, one access at a time.

Cutting a frame takes a word off the front, slices off the tag and the flags, looks at single places
and steps over what was looked at.  Each of these needs bytes that nothing in the bytes themselves
promises, and goes astray without them.  The checks in front of an access leave it its bytes: no
reader of frames ever goes astray, and both come to what they come to when frames are split off by
their shape.  A declared length is then that of the header and the body, so that it is never below
that of the header.
-/

namespace SegmentOffload.Wire

/-! ### Accesses -/

/-- An access to bytes that are not there, or to fewer than none. -/
inductive Stray where
  /-- The first `stop` of only `size` bytes. -/
  | slice (stop size : Nat)
  | place (index size : Nat)
  /-- A step over `count` of only `size` bytes. -/
  | step (count size : Nat)
  | overflow (overflow : Overflow)
deriving DecidableEq, Repr

def sliceTo (stop : Nat) (bytes : Bytes) : Except Stray Bytes :=
  if stop ≤ bytes.length then .ok (bytes.take stop) else .error (.slice stop bytes.length)

def byteAt (index : Nat) (bytes : Bytes) : Except Stray UInt8 :=
  match bytes[index]? with
  | some byte => .ok byte
  | none => .error (.place index bytes.length)

def stepOver (count : Nat) (bytes : Bytes) : Except Stray Bytes :=
  if count ≤ bytes.length then .ok (bytes.drop count) else .error (.step count bytes.length)

/-- How many bytes follow a length, when it counts its own eight. -/
def lengthBehind (declared : UInt64) : Except Stray UInt64 :=
  match subtractWords declared 8 with
  | .ok length => .ok length
  | .error overflow => .error (.overflow overflow)

theorem sliceTo_of_le {stop : Nat} {bytes : Bytes} (enough : stop ≤ bytes.length) :
    sliceTo stop bytes = .ok (bytes.take stop) :=
  if_pos enough

theorem stepOver_of_le {count : Nat} {bytes : Bytes} (enough : count ≤ bytes.length) :
    stepOver count bytes = .ok (bytes.drop count) :=
  if_pos enough

theorem lengthBehind_of_le {declared : UInt64} (enough : 8 ≤ declared.toNat) :
    ∃ length, lengthBehind declared = .ok length ∧ length.toNat = declared.toNat - 8 := by
  have small := declared.toNat_lt_size
  have length : (UInt64.ofNat (declared.toNat - 8)).toNat = declared.toNat - 8 :=
    UInt64.toNat_ofNat_of_lt' (by omega)
  have exact : subtractWords declared 8 = .ok (UInt64.ofNat (declared.toNat - 8)) := by
    have eight : (8 : UInt64).toNat = 8 := rfl
    rw [subtractWords_eq_ok_iff, length, eight]
    omega
  refine ⟨UInt64.ofNat (declared.toNat - 8), ?_, length⟩
  rw [lengthBehind, exact]

/-! ### Readers of frames -/

/-- The header in the four bytes behind a declared length. -/
def Header.lookUp (declared : UInt64) (front : Bytes) :
    Except Stray (Except Malformed Header) := do
  let code ← byteAt 0 front
  match Tag.ofByte? code with
  | none => return .error (.unknownTag code)
  | some tag =>
    let first ← byteAt 1 front
    let second ← byteAt 2 front
    let third ← byteAt 3 front
    return .ok ⟨declared, tag, ⟨first, second, third⟩⟩

namespace Frame

/-- Cut a frame out of what is behind its declared length. -/
def cutRest (declared : UInt64) (rest : Bytes) : Except Stray (Except Malformed Frame) := do
  let front ← sliceTo 4 rest
  match ← Header.lookUp declared front with
  | .error malformed => return .error malformed
  | .ok header =>
    let body ← stepOver 4 rest
    return .ok ⟨header, body⟩

/-- Cut a frame out of a buffer. -/
def cut (bytes : Bytes) : Except Stray (Except Malformed Frame) :=
  if bytes.length < 8 then .ok (.error (.noLength bytes.length))
  else do
    let front ← sliceTo 8 bytes
    let rest ← stepOver 8 bytes
    match checkLength (bytesWord front) with
    | .error malformed => return .error malformed
    | .ok declared =>
      if declared.toNat = bytes.length then cutRest declared rest
      else return .error (.lengthMismatch declared bytes.length)

end Frame

/-- Cut a frame out of a stream. -/
def cutFrame (arrivals : List Arrival) : Except Stray (Except FrameError Frame × List Arrival) :=
  match readExact 8 arrivals with
  | (.error error, later) => .ok (.error (.io error), later)
  | (.ok length, later) =>
    match checkLength (bytesWord length) with
    | .error malformed => .ok (.error (.malformed malformed.message), later)
    | .ok declared => do
      let wanted ← lengthBehind declared
      match readExact wanted.toNat later with
      | (.error error, later) => return (.error (.io error), later)
      | (.ok rest, later) =>
        match ← Frame.cutRest declared rest with
        | .error malformed => return (.error (.malformed malformed.message), later)
        | .ok frame => return (.ok frame, later)

/-! ### No access goes astray -/

theorem Header.lookUp_of_four (declared : UInt64) (code first second third : UInt8) :
    Header.lookUp declared [code, first, second, third] =
      match Tag.ofByte? code with
      | none => .ok (.error (.unknownTag code))
      | some tag => .ok (.ok ⟨declared, tag, ⟨first, second, third⟩⟩) := by
  cases known : Tag.ofByte? code with
  | none =>
    simp only [lookUp, byteAt, List.getElem?_cons_zero, bind, Except.bind, known]
    rfl
  | some tag =>
    simp only [lookUp, byteAt, List.getElem?_cons_zero, List.getElem?_cons_succ, bind, Except.bind,
      known]
    rfl

namespace Frame

/-- With four bytes behind the length, a frame is cut as it is split off. -/
theorem cutRest_eq (declared : UInt64) {rest : Bytes} (enough : 4 ≤ rest.length) :
    cutRest declared rest = .ok (ofRest declared rest) := by
  match rest, enough with
  | code :: first :: second :: third :: body, enough =>
    have front : (code :: first :: second :: third :: body).take 4 =
        [code, first, second, third] := rfl
    rw [cutRest, sliceTo_of_le enough, front]
    simp only [bind, Except.bind, Header.lookUp_of_four, ofRest]
    cases known : Tag.ofByte? code with
    | none => rfl
    | some tag =>
      simp only [stepOver_of_le enough]
      rfl
  | [], short | [_], short | [_, _], short | [_, _, _], short =>
    simp only [List.length_cons, List.length_nil] at short
    omega

/-- With fewer bytes, cutting goes astray. -/
example : cutRest 11 [45, 0, 0] = .error (.slice 4 3) := rfl

theorem cut_eq (bytes : Bytes) : cut bytes = .ok (decode bytes) := by
  unfold cut decode
  by_cases short : bytes.length < 8
  · rw [if_pos short, if_pos short]
  · have enough : 8 ≤ bytes.length := Nat.le_of_not_lt short
    rw [if_neg short, if_neg short, sliceTo_of_le enough, stepOver_of_le enough]
    simp only [bind, Except.bind]
    cases checked : checkLength (bytesWord (bytes.take 8)) with
    | error malformed => rfl
    | ok declared =>
      by_cases agreed : declared.toNat = bytes.length
      · obtain ⟨same, least, _⟩ := checkLength_eq_ok_iff.mp checked
        have behind : 4 ≤ (bytes.drop 8).length := by
          rw [headerSize, ← same] at least
          rw [List.length_drop]
          omega
        simp only [if_pos agreed, cutRest_eq declared behind]
      · simp only [if_neg agreed]
        rfl

end Frame

theorem cutFrame_eq (arrivals : List Arrival) : cutFrame arrivals = .ok (readFrame arrivals) := by
  unfold cutFrame readFrame
  cases readExact 8 arrivals with
  | mk begun later =>
    cases begun with
    | error error => rfl
    | ok length =>
      cases checked : checkLength (bytesWord length) with
      | error malformed => simp only [checked]
      | ok declared =>
        obtain ⟨same, least, _⟩ := checkLength_eq_ok_iff.mp checked
        rw [headerSize, ← same] at least
        -- The shortest length leaves four bytes behind its own eight, for the tag and the flags.
        have eight : 8 ≤ declared.toNat := by omega
        obtain ⟨wanted, behind, exact⟩ := lengthBehind_of_le eight
        simp only [checked, behind, bind, Except.bind, exact]
        cases filled : readExact (declared.toNat - 8) later with
        | mk outcome last =>
          cases outcome with
          | error error => rfl
          | ok rest =>
            obtain ⟨size, _⟩ := readExact_eq_ok filled
            have enough : 4 ≤ rest.length := by omega
            simp only [Frame.cutRest_eq declared enough]
            cases Frame.ofRest declared rest <;> rfl

/-! ### Lengths of frames -/

/-- A frame whose length is declared as that of its header and body, within bounds. -/
structure Frame.IsMeasured (frame : Frame) : Prop where
  total : frame.header.totalLength.toNat = headerSize + frame.body.length
  least : headerSize ≤ frame.header.totalLength.toNat
  most : frame.header.totalLength.toNat ≤ maximumSize
  /-- The length without the header is there to be computed, and it is that of the body. -/
  body : ∃ length, frame.header.bodyLength = .ok length ∧ length.toNat = frame.body.length

theorem Frame.isMeasured_of_decode {bytes : Bytes} {frame : Frame}
    (decoded : Frame.decode bytes = .ok frame) : frame.IsMeasured := by
  obtain ⟨written, agreed, within⟩ := decode_eq_ok_iff.mp decoded
  have size := frame.length_bytes
  have total : frame.header.totalLength.toNat = headerSize + frame.body.length := by
    rw [agreed, written, size]
  constructor
  · exact total
  · omega
  · omega
  · have small := length_body_lt decoded
    have header : (12 : UInt64).toNat = headerSize := rfl
    have length : (UInt64.ofNat frame.body.length).toNat = frame.body.length :=
      UInt64.toNat_ofNat_of_lt' small
    refine ⟨UInt64.ofNat frame.body.length, ?_, length⟩
    rw [Header.bodyLength, subtractWords_eq_ok_iff, header, length, total]

theorem Frame.isMeasured_of_readFrame {arrivals later : List Arrival} {frame : Frame}
    (read : readFrame arrivals = (.ok frame, later)) : frame.IsMeasured := by
  obtain ⟨bytes, decoded, _⟩ := decode_of_readFrame read
  exact isMeasured_of_decode decoded

end SegmentOffload.Wire
