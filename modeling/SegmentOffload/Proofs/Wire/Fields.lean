import Mathlib.Data.List.Induction
import SegmentOffload.Proofs.TextBytes
import SegmentOffload.Wire.Field

/-!
What the readers of fields accept.

Each reader succeeds exactly on the bytes that the writer of its field produces, followed by
anything, and then it leaves what follows.  A text field is written so that it can be read back only
when the text is free of the character zero; every text that is read is.
-/

namespace SegmentOffload

/-! ### Words -/

theorem bigEndianValue_lt (bytes : Bytes) :
    bigEndianValue bytes < Nat.pow 256 bytes.length := by
  induction bytes using List.reverseRecOn with
  | nil => exact Nat.one_pos
  | append_singleton earlier last ih =>
    have small := last.toNat_lt
    have wider : Nat.pow 256 (earlier.length + 1) = Nat.pow 256 earlier.length * 256 := rfl
    rw [bigEndianValue_append_singleton, List.length_append, List.length_singleton, wider]
    omega

theorem bigEndian_bigEndianValue (bytes : Bytes) :
    bigEndian bytes.length (bigEndianValue bytes) = bytes := by
  induction bytes using List.reverseRecOn with
  | nil => rfl
  | append_singleton earlier last ih =>
    have small := last.toNat_lt
    have quotient : (bigEndianValue earlier * 256 + last.toNat) / 256 = bigEndianValue earlier := by
      omega
    have lowest : UInt8.ofNat (bigEndianValue earlier * 256 + last.toNat) = last := by
      apply UInt8.toNat_inj.mp
      rw [UInt8.toNat_ofNat']
      omega
    rw [bigEndianValue_append_singleton, List.length_append, List.length_singleton, bigEndian,
      quotient, lowest, ih]

theorem wordBytes_bytesWord {bytes : Bytes} (eight : bytes.length = 8) :
    wordBytes (bytesWord bytes) = bytes := by
  have small := bigEndianValue_lt bytes
  rw [eight] at small
  rw [wordBytes, bytesWord, UInt64.toNat_ofNat_of_lt' small, ← eight, bigEndian_bigEndianValue]

theorem take_wordBytes_append (word : UInt64) (rest : Bytes) :
    (wordBytes word ++ rest).take 8 = wordBytes word :=
  List.take_left' (length_wordBytes word)

theorem drop_wordBytes_append (word : UInt64) (rest : Bytes) :
    (wordBytes word ++ rest).drop 8 = rest :=
  List.drop_left' (length_wordBytes word)

namespace Wire

theorem takeWord_run_eq_ok_iff {field : String} {bytes rest : Bytes} {word : UInt64} :
    (takeWord field).run bytes = (.ok word, rest) ↔ bytes = wordBytes word ++ rest := by
  simp only [Decoder.run, takeWord]
  constructor
  · intro taken
    split at taken
    · cases taken
    · rename_i enough
      cases taken
      have eight : (bytes.take 8).length = 8 := by
        rw [List.length_take]
        omega
      rw [wordBytes_bytesWord eight, List.take_append_drop]
  · intro written
    have long : ¬bytes.length < 8 := by
      rw [written, List.length_append, length_wordBytes]
      omega
    rw [if_neg long, written, take_wordBytes_append, drop_wordBytes_append, bytesWord_wordBytes]

/-! ### Texts -/

/-- A text is read exactly from its bytes and a zero, and it has no zero of its own. -/
theorem takeText_run_eq_ok_iff {field text : String} {bytes rest : Bytes} :
    (takeText field).run bytes = (.ok text, rest) ↔
      NulFree text ∧ bytes = textField text ++ rest := by
  simp only [Decoder.run, takeText]
  constructor
  · intro taken
    have whole := List.takeWhile_append_dropWhile (p := (· != 0)) (l := bytes)
    split at taken
    · cases taken
    · rename_i byte tail dropped
      have closing : byte = 0 := by
        have first := List.head?_dropWhile_not (· != (0 : UInt8)) bytes
        rw [dropped] at first
        simpa using first
      split at taken
      · rename_i read decoded
        cases taken
        have written := textBytes_of_bytesText? decoded
        constructor
        · rw [nulFree_iff_zero_notMem_textBytes, written]
          intro zero
          have nonzero := List.all_eq_true.mp List.all_takeWhile _ zero
          exact absurd nonzero (by decide)
        · rw [dropped, closing, ← written] at whole
          rw [textField, List.append_assoc, List.singleton_append, whole]
      · cases taken
  · intro given
    rcases given with ⟨free, written⟩
    have nonzero : ∀ byte ∈ textBytes text, (byte != 0) = true := by
      intro byte member
      rw [bne_iff_ne]
      intro zero
      rw [zero] at member
      exact (nulFree_iff_zero_notMem_textBytes text).mp free member
    have shape : bytes = textBytes text ++ 0 :: rest := by
      rw [written, textField, List.append_assoc, List.singleton_append]
    have taken : bytes.takeWhile (· != 0) = textBytes text := by
      rw [shape, List.takeWhile_append_of_pos nonzero]
      simp
    have dropped : bytes.dropWhile (· != 0) = 0 :: rest := by
      rw [shape, List.dropWhile_append_of_pos nonzero]
      simp
    simp only [dropped, taken, bytesText?_textBytes]

@[simp] theorem length_textField (text : String) :
    (textField text).length = (textBytes text).length + 1 := by
  rw [textField, List.length_append, List.length_singleton]

theorem length_textField_eq_textSize (text : String) : (textField text).length = textSize text := by
  rw [length_textField, length_textBytes, textSize]

/-- Items that are each counted right are counted right together. -/
theorem length_flatMap_eq_sizeOfAll {α : Type} {write : α → Bytes} {size : α → Nat}
    (sized : ∀ item, (write item).length = size item) (items : List α) :
    (items.flatMap write).length = sizeOfAll size items := by
  induction items with
  | nil => rfl
  | cons item rest ih => rw [List.flatMap_cons, List.length_append, sized, ih, sizeOfAll]

/-! ### Ends -/

theorem expectEnd_run_eq_ok_iff {what : String} {bytes rest : Bytes} {nothing : Unit} :
    (expectEnd what).run bytes = (.ok nothing, rest) ↔ bytes = [] ∧ rest = [] := by
  cases bytes with
  | nil =>
    constructor
    · intro ended
      cases ended
      exact ⟨rfl, rfl⟩
    · intro given
      rcases given with ⟨_, empty⟩
      rw [empty]
      rfl
  | cons first more =>
    constructor
    · intro impossible
      cases impossible
    · intro given
      rcases given with ⟨impossible, _⟩
      cases impossible

theorem Decoder.run_pure_eq_ok_iff {α : Type} {value result : α} {bytes rest : Bytes} :
    (pure value : Decoder α).run bytes = (.ok result, rest) ↔ result = value ∧ rest = bytes := by
  rw [run_pure]
  constructor
  · intro same
    cases same
    exact ⟨rfl, rfl⟩
  · intro given
    rcases given with ⟨sameValue, sameRest⟩
    rw [sameValue, sameRest]

theorem Decoder.run_ofExcept_eq_ok_iff {α : Type} {outcome : Except Malformed α} {result : α}
    {bytes rest : Bytes} :
    (ofExcept outcome).run bytes = (.ok result, rest) ↔ outcome = .ok result ∧ rest = bytes := by
  cases outcome with
  | ok value =>
    rw [ofExcept, run_pure_eq_ok_iff]
    constructor
    · intro given
      rcases given with ⟨sameValue, sameRest⟩
      exact ⟨congrArg Except.ok sameValue.symm, sameRest⟩
    · intro given
      rcases given with ⟨same, sameRest⟩
      cases same
      exact ⟨rfl, sameRest⟩
  | error malformed =>
    rw [ofExcept, run_refuse]
    constructor
    · intro impossible
      cases impossible
    · intro given
      rcases given with ⟨impossible, _⟩
      cases impossible

end Wire

end SegmentOffload
