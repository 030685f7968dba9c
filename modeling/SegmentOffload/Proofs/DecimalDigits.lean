import Mathlib.Data.List.Induction
import SegmentOffload.Decimal
import SegmentOffload.Proofs.TextBytes

/-!
Decimal numbers read back.

A written number is read as itself below any limit that admits it.  Reading accepts other spellings
too, with a plus sign or leading zeros, and nothing that spells no number; no spelling is shorter
than the written one.
-/

namespace SegmentOffload

/-! ### Digits -/

theorem digitValue?_digitChar {digit : Nat} (small : digit < 10) :
    digitValue? (Nat.digitChar digit) = some digit := by
  have value := Nat.toNat_digitChar_of_lt_ten small
  have low : '0' ≤ Nat.digitChar digit := by
    rw [Char.le_def, UInt32.le_iff_toNat_le, Char.toNat_val, Char.toNat_val, value]
    exact Nat.le_add_right _ _
  have high : Nat.digitChar digit ≤ '9' := by
    rw [Char.le_def, UInt32.le_iff_toNat_le, Char.toNat_val, Char.toNat_val, value]
    change 48 + digit ≤ 57
    omega
  simp only [digitValue?, decide_eq_true low, decide_eq_true high, Bool.and_self, if_true, value,
    Nat.add_sub_cancel_left]

theorem digitValue?_lt {character : Char} {digit : Nat}
    (read : digitValue? character = some digit) : digit < 10 := by
  unfold digitValue? at read
  split at read
  · rename_i between
    simp only [Bool.and_eq_true, decide_eq_true_eq, Char.le_def, UInt32.le_iff_toNat_le,
      Char.toNat_val] at between
    have top : '9'.toNat = 57 := rfl
    cases read
    omega
  · cases read

theorem decimalDigits_of_lt {number : Nat} (small : number < 10) :
    decimalDigits number = [Nat.digitChar number] := by
  rw [decimalDigits, if_pos small]

theorem decimalDigits_of_ge {number : Nat} (large : 10 ≤ number) :
    decimalDigits number = decimalDigits (number / 10) ++ [Nat.digitChar (number % 10)] := by
  rw [decimalDigits, if_neg (by omega)]

theorem decimalDigits_ne_nil (number : Nat) : decimalDigits number ≠ [] := by
  by_cases small : number < 10
  · rw [decimalDigits_of_lt small]
    exact List.cons_ne_nil _ _
  · rw [decimalDigits_of_ge (by omega)]
    exact List.append_ne_nil_of_right_ne_nil _ (List.cons_ne_nil _ _)

theorem isDigit_of_mem_decimalDigits {number : Nat} {character : Char}
    (member : character ∈ decimalDigits number) : character.isDigit = true := by
  induction number using Nat.strongRecOn with
  | ind number ih =>
    by_cases small : number < 10
    · rw [decimalDigits_of_lt small, List.mem_singleton] at member
      rw [member, Nat.isDigit_digitChar]
      exact decide_eq_true small
    · rw [decimalDigits_of_ge (by omega), List.mem_append, List.mem_singleton] at member
      rcases member with earlier | last
      · exact ih (number / 10) (by omega) earlier
      · rw [last, Nat.isDigit_digitChar]
        exact decide_eq_true (Nat.mod_lt _ (by omega))

/-! ### Reading back -/

theorem nulFree_decimal (number : Nat) : NulFree (decimal number) := by
  rw [NulFree, decimal, String.toList_ofList]
  intro member
  exact absurd (isDigit_of_mem_decimalDigits member) (by decide)

theorem extendDecimal_append_singleton {limit value : Nat} {characters : List Char}
    {character : Char} :
    extendDecimal limit value (characters ++ [character]) =
      match extendDecimal limit value characters with
      | .ok read => extendDecimal limit read [character]
      | .error fault => .error fault := by
  induction characters generalizing value with
  | nil => rfl
  | cons first rest ih =>
    simp only [List.cons_append, extendDecimal]
    cases digitValue? first with
    | none => rfl
    | some digit =>
      by_cases fits : value * 10 + digit < limit
      · simp only [if_pos fits, ih]
        rfl
      · simp only [if_neg fits]

theorem extendDecimal_singleton_eq_ok_iff {limit value result : Nat} {character : Char} :
    extendDecimal limit value [character] = .ok result ↔
      ∃ digit, digitValue? character = some digit ∧ result = value * 10 + digit ∧ result < limit := by
  simp only [extendDecimal]
  cases digitValue? character with
  | none =>
    constructor
    · intro impossible
      cases impossible
    · intro given
      rcases given with ⟨digit, impossible, _⟩
      cases impossible
  | some digit =>
    by_cases fits : value * 10 + digit < limit
    · simp only [if_pos fits]
      constructor
      · intro same
        cases same
        exact ⟨digit, rfl, rfl, fits⟩
      · intro given
        rcases given with ⟨other, same, result, _⟩
        cases same
        rw [result]
    · simp only [if_neg fits]
      constructor
      · intro impossible
        cases impossible
      · intro given
        rcases given with ⟨other, same, result, below⟩
        cases same
        omega

theorem extendDecimal_decimalDigits {limit number : Nat} (fits : number < limit) :
    extendDecimal limit 0 (decimalDigits number) = .ok number := by
  induction number using Nat.strongRecOn with
  | ind number ih =>
    by_cases small : number < 10
    · rw [decimalDigits_of_lt small, extendDecimal_singleton_eq_ok_iff]
      exact ⟨number, digitValue?_digitChar small, by omega, fits⟩
    · rw [decimalDigits_of_ge (by omega), extendDecimal_append_singleton,
        ih (number / 10) (by omega) (by omega)]
      change extendDecimal limit (number / 10) [Nat.digitChar (number % 10)] = .ok number
      rw [extendDecimal_singleton_eq_ok_iff]
      exact ⟨number % 10, digitValue?_digitChar (Nat.mod_lt _ (by omega)), by omega, fits⟩

theorem parseDecimal_ofList {limit : Nat} {first : Char} {rest : List Char}
    (unsigned : first ≠ '+') :
    parseDecimal limit (String.ofList (first :: rest)) = extendDecimal limit 0 (first :: rest) := by
  rw [parseDecimal, String.toList_ofList]
  split
  · rename_i impossible
    cases impossible
  · rename_i signed
    cases signed
    exact absurd rfl unsigned
  · rename_i signed
    cases signed
    exact absurd rfl unsigned
  · rfl

theorem parseDecimal_decimal {limit number : Nat} (fits : number < limit) :
    parseDecimal limit (decimal number) = .ok number := by
  have read := extendDecimal_decimalDigits fits
  rw [decimal]
  cases digits : decimalDigits number with
  | nil => exact absurd digits (decimalDigits_ne_nil number)
  | cons first rest =>
    have member : first ∈ decimalDigits number := by
      rw [digits]
      exact List.mem_cons_self
    have digit := isDigit_of_mem_decimalDigits member
    have unsigned : first ≠ '+' := by
      intro same
      rw [same] at digit
      exact absurd digit (by decide)
    rw [digits] at read
    rw [parseDecimal_ofList unsigned, read]

theorem parseWord_decimal (word : UInt64) : parseWord (decimal word.toNat) = .ok word := by
  rw [parseWord, parseDecimal_decimal word.toNat_lt_size]
  exact congrArg Except.ok UInt64.ofNat_toNat

/-! ### Spellings -/

/-- A text spells a number when it is decimal digits, at least one of them, behind at most a plus
sign. -/
def Spells (text : String) (number : Nat) : Prop :=
  ∃ digits : List Char, digits ≠ [] ∧ (∀ digit ∈ digits, digit.isDigit = true) ∧
    (text.toList = digits ∨ text.toList = '+' :: digits) ∧ number = Nat.ofDigitChars 10 digits 0

theorem digitValue?_of_isDigit {character : Char} (digit : character.isDigit = true) :
    digitValue? character = some (character.toNat - '0'.toNat) := by
  obtain ⟨low, high⟩ := Char.isDigit_iff_toNat.mp digit
  have between : ('0' ≤ character && character ≤ '9') = true := by
    simp only [Bool.and_eq_true, decide_eq_true_eq, Char.le_def, UInt32.le_iff_toNat_le,
      Char.toNat_val]
    exact ⟨low, high⟩
  rw [digitValue?, if_pos between]
  rfl

theorem isDigit_of_digitValue? {character : Char} {digit : Nat}
    (read : digitValue? character = some digit) : character.isDigit = true := by
  unfold digitValue? at read
  split at read
  · rename_i between
    simp only [Bool.and_eq_true, decide_eq_true_eq, Char.le_def, UInt32.le_iff_toNat_le,
      Char.toNat_val] at between
    exact Char.isDigit_iff_toNat.mpr between
  · cases read

theorem le_ofDigitChars (value : Nat) (digits : List Char) :
    value ≤ Nat.ofDigitChars 10 digits value := by
  induction digits generalizing value with
  | nil => exact Nat.le_refl _
  | cons digit rest ih =>
    have further := ih (10 * value + (digit.toNat - '0'.toNat))
    rw [Nat.ofDigitChars_cons]
    omega

/-- Digits are read as the number that they write, as long as it stays below the limit. -/
theorem extendDecimal_eq_ok_iff {limit value number : Nat} {characters : List Char}
    (start : value < limit) :
    extendDecimal limit value characters = .ok number ↔
      (∀ character ∈ characters, character.isDigit = true) ∧
        number = Nat.ofDigitChars 10 characters value ∧ number < limit := by
  induction characters generalizing value with
  | nil =>
    constructor
    · intro same
      cases same
      refine ⟨?_, rfl, start⟩
      intro character impossible
      cases impossible
    · rintro ⟨_, same, _⟩
      rw [same]
      rfl
  | cons first rest ih =>
    rw [extendDecimal, Nat.ofDigitChars_cons, List.forall_mem_cons]
    by_cases digit : first.isDigit = true
    · have extended : value * 10 + (first.toNat - '0'.toNat) =
          10 * value + (first.toNat - '0'.toNat) := by
        omega
      simp only [digitValue?_of_isDigit digit, extended]
      by_cases fits : 10 * value + (first.toNat - '0'.toNat) < limit
      · rw [if_pos fits, ih fits]
        exact ⟨fun read => ⟨⟨digit, read.1⟩, read.2⟩, fun read => ⟨read.1.2, read.2⟩⟩
      · -- the number only grows, so it is past the limit for good
        have grown := le_ofDigitChars (10 * value + (first.toNat - '0'.toNat)) rest
        rw [if_neg fits]
        constructor
        · intro impossible
          cases impossible
        · rintro ⟨_, same, small⟩
          omega
    · constructor
      · intro read
        split at read
        · cases read
        · rename_i valued
          exact absurd (isDigit_of_digitValue? valued) digit
      · intro given
        exact absurd given.1.1 digit

theorem parseDecimal_eq_ok_iff {limit number : Nat} {text : String} (positive : 0 < limit) :
    parseDecimal limit text = .ok number ↔ Spells text number ∧ number < limit := by
  have signless : '+'.isDigit = false := by decide
  unfold parseDecimal Spells
  split
  · rename_i empty
    constructor
    · intro impossible
      cases impossible
    · rintro ⟨⟨digits, nonempty, _, either, _⟩, _⟩
      rw [empty] at either
      rcases either with same | same
      · exact absurd same.symm nonempty
      · cases same
  · rename_i sign
    constructor
    · intro impossible
      cases impossible
    · rintro ⟨⟨digits, nonempty, all, either, _⟩, _⟩
      rw [sign] at either
      rcases either with rfl | same
      · rw [all '+' List.mem_cons_self] at signless
        cases signless
      · cases same
        exact absurd rfl nonempty
  · rename_i digits nonempty signed
    rw [extendDecimal_eq_ok_iff positive]
    constructor
    · rintro ⟨all, same, small⟩
      refine ⟨⟨digits, ?_, all, .inr signed, same⟩, small⟩
      rintro rfl
      exact nonempty rfl
    · rintro ⟨⟨others, _, all, either, same⟩, small⟩
      rw [signed] at either
      rcases either with rfl | alike
      · rw [all '+' List.mem_cons_self] at signless
        cases signless
      · cases alike
        exact ⟨all, same, small⟩
  · rename_i nonempty _ unsigned
    rw [extendDecimal_eq_ok_iff positive]
    constructor
    · rintro ⟨all, same, small⟩
      exact ⟨⟨text.toList, nonempty, all, .inl rfl, same⟩, small⟩
    · rintro ⟨⟨digits, _, all, either, same⟩, small⟩
      rcases either with rfl | alike
      · exact ⟨all, same, small⟩
      · exact absurd alike (unsigned digits)

/-- A word is read from exactly the texts that spell it. -/
theorem parseWord_eq_ok_iff {text : String} {word : UInt64} :
    parseWord text = .ok word ↔ Spells text word.toNat := by
  have read (number : Nat) : parseDecimal UInt64.size text = .ok number ↔
      Spells text number ∧ number < UInt64.size :=
    parseDecimal_eq_ok_iff (by decide)
  unfold parseWord
  constructor
  · intro parsed
    cases taken : parseDecimal UInt64.size text with
    | error fault =>
      rw [taken] at parsed
      cases parsed
    | ok number =>
      obtain ⟨spells, small⟩ := (read number).mp taken
      rw [taken] at parsed
      cases parsed
      rw [UInt64.toNat_ofNat_of_lt' small]
      exact spells
  · intro spells
    rw [(read _).mpr ⟨spells, word.toNat_lt_size⟩]
    exact congrArg Except.ok UInt64.ofNat_toNat

/-! ### No spelling is shorter -/

theorem length_decimalDigits_le {limit number : Nat} {characters : List Char}
    (read : extendDecimal limit 0 characters = .ok number) :
    (decimalDigits number).length ≤ max 1 characters.length := by
  induction characters using List.reverseRecOn generalizing number with
  | nil =>
    cases read
    rw [decimalDigits_of_lt (by decide)]
    exact Nat.le_max_left _ _
  | append_singleton earlier last ih =>
    rw [extendDecimal_append_singleton] at read
    cases before : extendDecimal limit 0 earlier with
    | error fault =>
      rw [before] at read
      cases read
    | ok value =>
      rw [before] at read
      obtain ⟨digit, valued, same, _⟩ := extendDecimal_singleton_eq_ok_iff.mp read
      have small := digitValue?_lt valued
      have shorter := ih before
      rw [List.length_append, List.length_singleton]
      by_cases single : number < 10
      · rw [decimalDigits_of_lt single, List.length_singleton]
        omega
      · -- with more than one digit the earlier characters cannot be empty
        have quotient : number / 10 = value := by omega
        have nonempty : 0 < earlier.length := by
          cases earlier with
          | nil =>
            cases before
            omega
          | cons first rest => exact Nat.succ_pos _
        rw [decimalDigits_of_ge (by omega), quotient, List.length_append, List.length_singleton]
        omega

theorem length_textBytes_decimal (number : Nat) :
    (textBytes (decimal number)).length = (decimalDigits number).length := by
  rw [decimal, length_textBytes_ofList_of_ascii]
  intro character member
  have digit := isDigit_of_mem_decimalDigits member
  simp only [Char.isDigit, Bool.and_eq_true, decide_eq_true_eq, UInt32.le_iff_toNat_le,
    Char.toNat_val] at digit
  have top : (57 : UInt32).toNat = 57 := rfl
  have below := digit.2
  simp at below
  omega

theorem length_decimalDigits_le_of_lt {number digits : Nat}
    (small : number < Nat.pow 10 (digits + 1)) :
    (decimalDigits number).length ≤ digits + 1 := by
  induction digits generalizing number with
  | zero =>
    have one : (decimalDigits number).length = 1 := by
      rw [decimalDigits_of_lt small, List.length_singleton]
    omega
  | succ digits ih =>
    by_cases single : number < 10
    · have one : (decimalDigits number).length = 1 := by
        rw [decimalDigits_of_lt single, List.length_singleton]
      omega
    · have wider : Nat.pow 10 (digits + 1 + 1) = Nat.pow 10 (digits + 1) * 10 := rfl
      have quotient : number / 10 < Nat.pow 10 (digits + 1) := by omega
      have earlier := ih quotient
      rw [decimalDigits_of_ge (by omega), List.length_append, List.length_singleton]
      omega

/-- A word takes at most twenty digits. -/
theorem length_textBytes_word_le (word : UInt64) :
    (textBytes (decimal word.toNat)).length ≤ 20 := by
  rw [length_textBytes_decimal]
  apply length_decimalDigits_le_of_lt
  have bound := word.toNat_lt
  have room : UInt64.size ≤ Nat.pow 10 (19 + 1) := by decide
  exact Nat.lt_of_lt_of_le bound room

theorem extendDecimal_lt {limit value number : Nat} {characters : List Char}
    (start : value < limit) (read : extendDecimal limit value characters = .ok number) :
    number < limit := by
  induction characters generalizing value with
  | nil =>
    cases read
    exact start
  | cons first rest ih =>
    simp only [extendDecimal] at read
    split at read
    · cases read
    · split at read
      · rename_i fits
        exact ih fits read
      · cases read

/-- What is read was digits, at least one of them, behind at most a plus sign. -/
theorem exists_digits_of_parseDecimal {limit number : Nat} {text : String}
    (read : parseDecimal limit text = .ok number) :
    ∃ digits, digits ≠ [] ∧ digits <:+ text.toList ∧
      extendDecimal limit 0 digits = .ok number := by
  unfold parseDecimal at read
  split at read
  · cases read
  · cases read
  · rename_i digits nonempty characters
    refine ⟨digits, nonempty, ?_, read⟩
    rw [characters]
    exact List.suffix_cons _ _
  · rename_i nonempty _ _
    exact ⟨text.toList, nonempty, List.suffix_refl _, read⟩

/-- The written number is no longer than any text that is read as it. -/
theorem length_textBytes_decimal_le {text : String} {word : UInt64}
    (read : parseWord text = .ok word) :
    (textBytes (decimal word.toNat)).length ≤ (textBytes text).length := by
  unfold parseWord at read
  cases parsed : parseDecimal UInt64.size text with
  | error fault =>
    rw [parsed] at read
    cases read
  | ok number =>
    rw [parsed] at read
    cases read
    obtain ⟨digits, nonempty, suffix, extended⟩ := exists_digits_of_parseDecimal parsed
    have small := extendDecimal_lt (by decide) extended
    have exact : (UInt64.ofNat number).toNat = number := UInt64.toNat_ofNat_of_lt small
    have written := length_decimalDigits_le extended
    have positive := List.length_pos_iff.mpr nonempty
    have within := suffix.length_le
    have characters := length_toList_le_length_textBytes text
    rw [exact, length_textBytes_decimal]
    omega

end SegmentOffload
