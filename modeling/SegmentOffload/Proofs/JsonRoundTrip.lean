import Mathlib.Data.List.TakeDrop
import SegmentOffload.Json.Parse
import SegmentOffload.Json.Record
import SegmentOffload.Proofs.DecimalDigits

/-!
Written JSON is read back.

A value is plain when it holds no number that is spelled in another way than a natural one and no
half of a character.  Whatever the layout, the reader takes the written form of a plain value off
the front of a text and leaves what follows; so a plain value is read back from what is written of
it.
-/

namespace SegmentOffload.JsonValue

/-! ### Blanks -/

def IsBlank (characters : List Char) : Prop :=
  ∀ character ∈ characters, isSpace character = true

theorem skipSpace_append {blank : List Char} (blanks : IsBlank blank) (rest : List Char) :
    skipSpace (blank ++ rest) = skipSpace rest := by
  rw [skipSpace, skipSpace, List.dropWhile_append_of_pos blanks]

theorem skipSpace_cons {first : Char} (other : isSpace first = false) (rest : List Char) :
    skipSpace (first :: rest) = first :: rest := by
  rw [skipSpace, List.dropWhile_cons_of_neg]
  rw [other]
  exact Bool.false_ne_true

theorem isBlank_lineBreak (layout : Layout) : IsBlank layout.lineBreak := by
  intro character listed
  cases layout with
  | compact => cases listed
  | indented level =>
    rcases List.mem_cons.mp listed with rfl | inner
    · rfl
    · rw [List.eq_of_mem_replicate inner]
      rfl

theorem takeValue_blank {blank : List Char} (blanks : IsBlank blank) (fuel : Nat)
    (rest : List Char) : takeValue fuel (blank ++ rest) = takeValue fuel rest := by
  cases fuel with
  | zero => rfl
  | succ fuel => rw [takeValue, takeValue, skipSpace_append blanks]

theorem takeItems_blank {blank : List Char} (blanks : IsBlank blank) (fuel : Nat)
    (rest : List Char) : takeItems fuel (blank ++ rest) = takeItems fuel rest := by
  cases fuel with
  | zero => rfl
  | succ fuel => rw [takeItems, takeItems, takeValue_blank blanks]

theorem takeMembers_blank {blank : List Char} (blanks : IsBlank blank) (fuel : Nat)
    (rest : List Char) : takeMembers fuel (blank ++ rest) = takeMembers fuel rest := by
  cases fuel with
  | zero => rfl
  | succ fuel => rw [takeMembers, takeMembers, skipSpace_append blanks]

/-! ### Texts -/

theorem hexCode?_codeEscape {code : Nat} (control : code < 0x20) :
    ∃ first second third fourth, codeEscape code = ['\\', 'u', first, second, third, fourth] ∧
      hexCode? first second third fourth = some code := by
  have every : ∀ code < 0x20, hexCode? (hexDigit (UInt8.ofNat (code >>> 12 % 16)))
      (hexDigit (UInt8.ofNat (code >>> 8 % 16))) (hexDigit (UInt8.ofNat (code >>> 4 % 16)))
      (hexDigit (UInt8.ofNat (code >>> 0 % 16))) = some code := by
    decide +kernel
  exact ⟨_, _, _, _, rfl, every code control⟩

theorem takeUnits_codeEscape {code : Nat} (control : code < 0x20) (rest : List Char) :
    takeUnits (codeEscape code ++ rest) =
      (takeUnits rest).map fun taken => (.character (Char.ofNat code) :: taken.1, taken.2) := by
  obtain ⟨first, second, third, fourth, same, read⟩ := hexCode?_codeEscape control
  have noHigh : isHighHalf code = false := by
    rw [isHighHalf, Bool.and_eq_false_iff, decide_eq_false_iff_not]
    omega
  have noLow : isLowHalf code = false := by
    rw [isLowHalf, Bool.and_eq_false_iff, decide_eq_false_iff_not]
    omega
  simp only [same, List.cons_append, List.nil_append, takeUnits, read]
  cases takeUnits rest with
  | none => rfl
  | some taken => simp [consCode, noHigh, noLow]

theorem takeUnits_escape {letter character : Char} (other : letter ≠ 'u')
    (stands : shortEscape? letter = some character) (rest : List Char) :
    takeUnits ('\\' :: letter :: rest) =
      (takeUnits rest).map fun taken => (.character character :: taken.1, taken.2) := by
  rw [takeUnits]
  · rw [stands]
    cases takeUnits rest with
    | none => rfl
    | some taken => rfl
  · intro first second third fourth more same
    exact absurd same other

theorem takeUnits_plain {character : Char} (noQuote : character ≠ '"') (noSlash : character ≠ '\\')
    (noControl : 0x20 ≤ character.toNat) (rest : List Char) :
    takeUnits (character :: rest) =
      (takeUnits rest).map fun taken => (.character character :: taken.1, taken.2) := by
  rw [takeUnits]
  · rw [if_neg]
    · cases takeUnits rest with
      | none => rfl
      | some taken => rfl
    · rintro (slash | control)
      · exact noSlash slash
      · omega
  · exact noQuote
  · intro first second third fourth more slash
    exact absurd slash noSlash
  · intro letter more slash
    exact absurd slash noSlash

theorem takeUnits_writtenCharacter (character : Char) (rest : List Char) :
    takeUnits (writtenCharacter character ++ rest) =
      (takeUnits rest).map fun taken => (.character character :: taken.1, taken.2) := by
  unfold writtenCharacter
  split
  · rename_i quote
    rw [quote]
    exact takeUnits_escape (by decide) rfl rest
  · rename_i noQuote
    split
    · rename_i slash
      rw [slash]
      exact takeUnits_escape (by decide) rfl rest
    · rename_i noSlash
      split
      · rename_i noControl
        exact takeUnits_plain noQuote noSlash noControl rest
      · rename_i control
        have same := Char.ofNat_toNat character
        split
        · rename_i code
          rw [← same, code]
          exact takeUnits_escape (by decide) rfl rest
        · rename_i code
          rw [← same, code]
          exact takeUnits_escape (by decide) rfl rest
        · rename_i code
          rw [← same, code]
          exact takeUnits_escape (by decide) rfl rest
        · rename_i code
          rw [← same, code]
          exact takeUnits_escape (by decide) rfl rest
        · rename_i code
          rw [← same, code]
          exact takeUnits_escape (by decide) rfl rest
        · rw [takeUnits_codeEscape (Nat.lt_of_not_le control), same]

theorem takeUnits_characters (characters rest : List Char) :
    takeUnits ((characters.map JsonUnit.character).flatMap writtenUnit ++ '"' :: rest) =
      some (characters.map .character, rest) := by
  induction characters with
  | nil => rw [List.map_nil, List.flatMap_nil, List.nil_append, takeUnits]
  | cons first more ih =>
    rw [List.map_cons, List.flatMap_cons, List.append_assoc, writtenUnit,
      takeUnits_writtenCharacter, ih]
    rfl

/-! ### Numbers -/

/-- What follows does not go on with a number. -/
def Stops (rest : List Char) : Prop :=
  ∀ first more, rest = first :: more →
    isDigit first = false ∧ first ≠ '.' ∧ first ≠ 'e' ∧ first ≠ 'E'

theorem stop_of_space {character : Char} (space : isSpace character = true) :
    isDigit character = false ∧ character ≠ '.' ∧ character ≠ 'e' ∧ character ≠ 'E' := by
  simp only [isSpace, Bool.or_eq_true, beq_iff_eq] at space
  rcases space with ((rfl | rfl) | rfl) | rfl <;> decide

theorem stops_cons {mark : Char}
    (stop : isDigit mark = false ∧ mark ≠ '.' ∧ mark ≠ 'e' ∧ mark ≠ 'E') (rest : List Char) :
    Stops (mark :: rest) := by
  intro first more same
  cases same
  exact stop

theorem stops_append {blank rest : List Char} (blanks : IsBlank blank) (stops : Stops rest) :
    Stops (blank ++ rest) := by
  cases blank with
  | nil => exact stops
  | cons first more => exact stops_cons (stop_of_space (blanks first List.mem_cons_self)) _

theorem exists_digit (number : Nat) :
    ∃ first more, decimalDigits number = first :: more ∧ isDigit first = true := by
  cases digits : decimalDigits number with
  | nil => exact absurd digits (decimalDigits_ne_nil number)
  | cons first more =>
    refine ⟨first, more, rfl, ?_⟩
    apply isDigit_of_mem_decimalDigits
    rw [digits]
    exact List.mem_cons_self

theorem head_decimalDigits {number : Nat} (positive : number ≠ 0) {first : Char}
    {more : List Char} (digits : decimalDigits number = first :: more) : first ≠ '0' := by
  induction number using Nat.strongRecOn generalizing first more with
  | ind number ih =>
    by_cases small : number < 10
    · rw [decimalDigits_of_lt small] at digits
      have every : ∀ digit < 10, digit ≠ 0 → Nat.digitChar digit ≠ '0' := by decide
      rw [← (List.cons.inj digits).1]
      exact every number small positive
    · rw [decimalDigits_of_ge (by omega)] at digits
      obtain ⟨front, others, whole, _⟩ := exists_digit (number / 10)
      rw [whole, List.cons_append] at digits
      rw [← (List.cons.inj digits).1]
      exact ih (number / 10) (by omega) (by omega) whole

theorem digitsValue_decimalDigits (number : Nat) : digitsValue (decimalDigits number) = number := by
  have every : ∀ digit < 10, (Nat.digitChar digit).toNat - 48 = digit := by decide
  induction number using Nat.strongRecOn with
  | ind number ih =>
    by_cases small : number < 10
    · rw [decimalDigits_of_lt small, digitsValue, List.foldl_cons, List.foldl_nil, Nat.zero_mul,
        Nat.zero_add, every number small]
    · rw [decimalDigits_of_ge (by omega), digitsValue, List.foldl_append, List.foldl_cons,
        List.foldl_nil, every _ (Nat.mod_lt _ (by omega))]
      have front := ih (number / 10) (by omega)
      rw [digitsValue] at front
      rw [front]
      omega

theorem takeDigits_append {digits rest : List Char} (all : ∀ digit ∈ digits, isDigit digit = true)
    (nonempty : digits ≠ []) (stops : Stops rest) :
    takeDigits (digits ++ rest) = some (digits, rest) := by
  have span : spanDigits (digits ++ rest) = (digits, rest) := by
    rw [spanDigits, List.span_eq_takeWhile_dropWhile, List.takeWhile_append_of_pos all,
      List.dropWhile_append_of_pos all]
    cases rest with
    | nil => rw [List.takeWhile_nil, List.dropWhile_nil, List.append_nil]
    | cons first more =>
      have other := (stops first more rfl).1
      rw [List.takeWhile_cons_of_neg, List.dropWhile_cons_of_neg, List.append_nil]
      · rw [other]
        exact Bool.false_ne_true
      · rw [other]
        exact Bool.false_ne_true
  unfold takeDigits
  rw [span]
  cases digits with
  | nil => exact absurd rfl nonempty
  | cons first more => rfl

theorem takeWhole_decimalDigits (number : Nat) {rest : List Char} (stops : Stops rest) :
    takeWhole (decimalDigits number ++ rest) = some (decimalDigits number, rest) := by
  by_cases zero : number = 0
  · rw [zero, decimalDigits_of_lt (by omega)]
    rfl
  · obtain ⟨first, more, digits, _⟩ := exists_digit number
    have other := head_decimalDigits zero digits
    have taken := takeDigits_append (fun _ listed => isDigit_of_mem_decimalDigits listed)
      (decimalDigits_ne_nil number) stops
    rw [digits, List.cons_append] at taken ⊢
    rw [takeWhole]
    · exact taken
    · intro left same
      exact other (List.cons.inj same).1

theorem takeFraction_of_stops {rest : List Char} (stops : Stops rest) :
    takeFraction rest = some ([], rest) := by
  unfold takeFraction
  split
  · exact absurd rfl (stops _ _ rfl).2.1
  · rfl

theorem takeExponent_of_stops {rest : List Char} (stops : Stops rest) :
    takeExponent rest = some ([], rest) := by
  cases rest with
  | nil => rfl
  | cons first more =>
    obtain ⟨_, _, small, great⟩ := stops first more rfl
    unfold takeExponent
    dsimp only
    rw [if_neg]
    rintro (same | same)
    · exact small same
    · exact great same

theorem takeNumber_decimalDigits (number : Nat) {rest : List Char} (stops : Stops rest) :
    takeNumber (decimalDigits number ++ rest) = some (.natural number, rest) := by
  have whole := takeWhole_decimalDigits number stops
  have value := digitsValue_decimalDigits number
  obtain ⟨first, more, digits, digit⟩ := exists_digit number
  rw [digits] at whole value ⊢
  unfold takeNumber
  have unsigned : first ≠ '-' := by
    rintro rfl
    cases digit
  rw [List.cons_append] at whole ⊢
  split
  rename_i sign left split
  split at split
  · rename_i same
    exact absurd (List.cons.inj same).1 unsigned
  · cases split
    simp only [whole, takeFraction_of_stops stops, takeExponent_of_stops stops, Option.bind_eq_bind,
      Option.bind_some, List.isEmpty_nil, Bool.and_self, if_true, value]
    rfl

/-! ### Values -/

/-- Values that are written so that they can be read back. -/
inductive Plain : JsonValue → Prop where
  | null : Plain .null
  | boolean (value : Bool) : Plain (.boolean value)
  | natural (value : Nat) : Plain (.natural value)
  | text (characters : List Char) : Plain (.text (characters.map .character))
  | list {items : List JsonValue} : (∀ item ∈ items, Plain item) → Plain (.list items)
  | object {members : List JsonMember} :
    (∀ member ∈ members, ∃ characters : List Char, member.1 = characters.map .character) →
    (∀ member ∈ members, Plain member.2) → Plain (.object members)

theorem Plain.cons {key : JsonText} {value : JsonValue} {rest : List JsonMember}
    (plain : Plain (.object ((key, value) :: rest))) :
    (∃ characters : List Char, key = characters.map .character) ∧ Plain value ∧
      Plain (.object rest) := by
  cases plain with
  | object keys values =>
    refine ⟨keys _ List.mem_cons_self, values (key, value) List.mem_cons_self, .object ?_ ?_⟩
    · intro member listed
      exact keys member (List.mem_cons_of_mem _ listed)
    · intro member listed
      exact values member (List.mem_cons_of_mem _ listed)

/-- What is written of a value begins with no blank, and not with the end of a list. -/
theorem head_written {value : JsonValue} (plain : Plain value) (layout : Layout) :
    ∃ first more, written layout value = first :: more ∧ isSpace first = false ∧ first ≠ ']' := by
  cases plain with
  | null => exact ⟨_, _, rfl, rfl, by decide⟩
  | boolean value => cases value <;> exact ⟨_, _, rfl, rfl, by decide⟩
  | natural value =>
    obtain ⟨first, more, digits, digit⟩ := exists_digit value
    refine ⟨first, more, digits, ?_, ?_⟩
    · rw [← Bool.not_eq_true]
      intro space
      rw [(stop_of_space space).1] at digit
      cases digit
    · rintro rfl
      cases digit
  | text characters => exact ⟨_, _, rfl, rfl, by decide⟩
  | @list items =>
    cases items with
    | nil => exact ⟨_, _, rfl, rfl, by decide⟩
    | cons first rest => exact ⟨_, _, rfl, rfl, by decide⟩
  | @object members =>
    cases members with
    | nil => exact ⟨_, _, rfl, rfl, by decide⟩
    | cons first rest => exact ⟨_, _, rfl, rfl, by decide⟩

theorem skipSpace_written {value : JsonValue} (plain : Plain value) (layout : Layout)
    (rest : List Char) :
    skipSpace (written layout value ++ rest) = written layout value ++ rest := by
  obtain ⟨first, more, head, other, _⟩ := head_written plain layout
  rw [head, List.cons_append, skipSpace_cons other]

theorem takeValue_digits (fuel number : Nat) {rest : List Char} (stops : Stops rest) :
    takeValue (fuel + 1) (decimalDigits number ++ rest) = some (.natural number, rest) := by
  have number' := takeNumber_decimalDigits number stops
  have skipped := skipSpace_written (.natural number) .compact rest
  rw [written] at skipped
  obtain ⟨first, more, digits, digit⟩ := exists_digit number
  rw [takeValue, skipped]
  rw [digits, List.cons_append] at number' ⊢
  have other {mark : Char} (none : isDigit mark = false) : first ≠ mark := by
    rintro rfl
    rw [none] at digit
    cases digit
  split
  · rename_i same
    exact absurd (List.cons.inj same).1 (other rfl)
  · rename_i same
    exact absurd (List.cons.inj same).1 (other rfl)
  · rename_i same
    exact absurd (List.cons.inj same).1 (other rfl)
  · rename_i same
    exact absurd (List.cons.inj same).1 (other rfl)
  · rename_i same
    exact absurd (List.cons.inj same).1 (other rfl)
  · rename_i same
    exact absurd (List.cons.inj same).1 (other rfl)
  · exact number'

theorem takeValue_text (fuel : Nat) (characters rest : List Char) :
    takeValue (fuel + 1) (writtenText (characters.map .character) ++ rest) =
      some (.text (characters.map .character), rest) := by
  rw [writtenText, takeValue, List.cons_append, List.cons_append, skipSpace_cons rfl,
    List.append_assoc]
  simp only [List.singleton_append, takeUnits_characters, Option.bind_eq_bind, Option.bind_some]
  rfl

theorem takeValue_list {fuel : Nat} {first : Char} {blank more left : List Char}
    {items : List JsonValue} (blanks : IsBlank blank) (noBlank : isSpace first = false)
    (noEnd : first ≠ ']') (taken : takeItems fuel (first :: more) = some (items, left)) :
    takeValue (fuel + 1) ('[' :: (blank ++ first :: more)) = some (.list items, left) := by
  rw [takeValue, skipSpace_cons rfl]
  simp only [skipSpace_append blanks, skipSpace_cons noBlank]
  split
  · rename_i same
    exact absurd (List.cons.inj same).1 noEnd
  · rw [taken]
    rfl

theorem takeValue_object {fuel : Nat} {first : Char} {blank more left : List Char}
    {members : List JsonMember} (blanks : IsBlank blank) (noBlank : isSpace first = false)
    (noEnd : first ≠ '}') (taken : takeMembers fuel (first :: more) = some (members, left)) :
    takeValue (fuel + 1) ('{' :: (blank ++ first :: more)) = some (.object members, left) := by
  rw [takeValue, skipSpace_cons rfl]
  simp only [skipSpace_append blanks, skipSpace_cons noBlank]
  split
  · rename_i same
    exact absurd (List.cons.inj same).1 noEnd
  · rw [taken]
    rfl

theorem colon_eq (layout : Layout) : ∃ blank, layout.colon = ':' :: blank ∧ IsBlank blank := by
  cases layout with
  | compact =>
    refine ⟨[], rfl, ?_⟩
    intro character impossible
    cases impossible
  | indented level =>
    refine ⟨[' '], rfl, ?_⟩
    intro character listed
    rw [List.mem_singleton.mp listed]
    rfl

theorem colon_inner (layout : Layout) : layout.inner.colon = layout.colon := by
  cases layout <;> rfl

/-- With so much fuel the reader takes what was written off the front.  Two units for each character
are enough: a list or an object has two characters of its own, and an entry behind the first has a
comma. -/
structure Reads (fuel : Nat) : Prop where
  value : ∀ {value : JsonValue} (layout : Layout) {rest : List Char}, Plain value → Stops rest →
    2 * (written layout value).length ≤ fuel →
    takeValue fuel (written layout value ++ rest) = some (value, rest)
  items : ∀ {first : JsonValue} {rest : List JsonValue} (layout : Layout)
    {closing after : List Char}, (∀ item ∈ first :: rest, Plain item) → IsBlank closing →
    2 * ((written layout first).length + (writtenItems layout rest).length) + 1 ≤ fuel →
    takeItems fuel
        (written layout first ++ (writtenItems layout rest ++ (closing ++ ']' :: after))) =
      some (first :: rest, after)
  members : ∀ {characters : List Char} {value : JsonValue} {rest : List JsonMember}
    (layout : Layout) {closing after : List Char}, Plain value → Plain (.object rest) →
    IsBlank closing →
    2 * ((written layout value).length + (writtenMembers layout rest).length) + 1 ≤ fuel →
    takeMembers fuel (writtenText (characters.map .character) ++ (layout.colon ++
        (written layout value ++ (writtenMembers layout rest ++ (closing ++ '}' :: after))))) =
      some ((characters.map .character, value) :: rest, after)

section

variable {fuel : Nat} {layout : Layout} {closing after : List Char}

theorem Reads.nextItems (reads : Reads fuel) {first : JsonValue} {rest : List JsonValue}
    (plain : ∀ item ∈ first :: rest, Plain item) (blanks : IsBlank closing)
    (enough : 2 * ((written layout first).length + (writtenItems layout rest).length) ≤ fuel) :
    takeItems (fuel + 1)
        (written layout first ++ (writtenItems layout rest ++ (closing ++ ']' :: after))) =
      some (first :: rest, after) := by
  have stops : Stops (writtenItems layout rest ++ (closing ++ ']' :: after)) := by
    cases rest with
    | nil =>
      rw [writtenItems, List.nil_append]
      exact stops_append blanks (stops_cons (by decide) after)
    | cons second more => exact stops_cons (by decide) _
  rw [takeItems, reads.value layout (plain first List.mem_cons_self) stops (by omega)]
  simp only [Option.bind_eq_bind, Option.bind_some]
  cases rest with
  | nil =>
    rw [writtenItems, List.nil_append, skipSpace_append blanks, skipSpace_cons rfl]
    rfl
  | cons second more =>
    rw [writtenItems, List.length_append, List.length_append, List.length_cons] at enough
    simp only [writtenItems, List.cons_append, List.append_assoc]
    rw [skipSpace_cons rfl]
    change (takeItems fuel (layout.lineBreak ++ _)).bind _ = _
    rw [takeItems_blank (isBlank_lineBreak layout), reads.items layout
      (fun item listed => plain item (List.mem_cons_of_mem _ listed)) blanks (by omega)]
    rfl

theorem Reads.nextMembers (reads : Reads fuel) {characters : List Char} {value : JsonValue}
    {rest : List JsonMember} (plain : Plain value) (others : Plain (.object rest))
    (blanks : IsBlank closing)
    (enough : 2 * ((written layout value).length + (writtenMembers layout rest).length) ≤ fuel) :
    takeMembers (fuel + 1) (writtenText (characters.map .character) ++ (layout.colon ++
        (written layout value ++ (writtenMembers layout rest ++ (closing ++ '}' :: after))))) =
      some ((characters.map .character, value) :: rest, after) := by
  obtain ⟨blank, colon, space⟩ := colon_eq layout
  have stops : Stops (writtenMembers layout rest ++ (closing ++ '}' :: after)) := by
    cases rest with
    | nil =>
      rw [writtenMembers, List.nil_append]
      exact stops_append blanks (stops_cons (by decide) after)
    | cons second more => exact stops_cons (by decide) _
  rw [writtenText, takeMembers, List.cons_append, List.cons_append, skipSpace_cons rfl,
    List.append_assoc]
  simp only [List.singleton_append, takeUnits_characters, Option.bind_eq_bind, Option.bind_some]
  rw [colon, List.cons_append, skipSpace_cons rfl]
  change (takeValue fuel (blank ++ _)).bind _ = _
  rw [takeValue_blank space, reads.value layout plain stops (by omega)]
  simp only [Option.bind_some]
  cases rest with
  | nil =>
    rw [writtenMembers, List.nil_append, skipSpace_append blanks, skipSpace_cons rfl]
    rfl
  | cons second more =>
    obtain ⟨key, next⟩ := second
    obtain ⟨⟨letters, rfl⟩, inner, further⟩ := others.cons
    rw [writtenMembers] at enough
    simp only [List.length_append, List.length_cons] at enough
    simp only [writtenMembers, List.cons_append, List.append_assoc]
    rw [skipSpace_cons rfl]
    change (takeMembers fuel (layout.lineBreak ++ _)).bind _ = _
    rw [takeMembers_blank (isBlank_lineBreak layout),
      reads.members layout inner further blanks (by omega)]
    rfl

theorem Reads.nextValue (reads : Reads fuel) {value : JsonValue} {rest : List Char}
    (plain : Plain value) (stops : Stops rest)
    (enough : 2 * (written layout value).length ≤ fuel + 1) :
    takeValue (fuel + 1) (written layout value ++ rest) = some (value, rest) := by
  cases plain with
  | null =>
    rw [written, takeValue]
    rfl
  | boolean value =>
    cases value with
    | true =>
      rw [written, takeValue]
      rfl
    | false =>
      rw [written, takeValue]
      rfl
  | natural value =>
    rw [written]
    exact takeValue_digits fuel value stops
  | text characters =>
    rw [written]
    exact takeValue_text fuel characters rest
  | @list items all =>
    cases items with
    | nil =>
      rw [written, takeValue]
      rfl
    | cons first more =>
      obtain ⟨head, others, same, noBlank, noEnd⟩ :=
        head_written (all first List.mem_cons_self) layout.inner
      rw [written] at enough ⊢
      simp only [List.length_append, List.length_cons] at enough
      simp only [List.cons_append, List.append_assoc, List.nil_append]
      have taken : takeItems fuel (written layout.inner first ++
          (writtenItems layout.inner more ++ (layout.lineBreak ++ ']' :: rest))) =
          some (first :: more, rest) :=
        reads.items layout.inner all (isBlank_lineBreak layout) (by omega)
      rw [same, List.cons_append] at taken ⊢
      exact takeValue_list (isBlank_lineBreak _) noBlank noEnd taken
  | @object members keys values =>
    cases members with
    | nil =>
      rw [written, takeValue]
      rfl
    | cons first more =>
      obtain ⟨key, value⟩ := first
      obtain ⟨⟨letters, rfl⟩, inner, further⟩ := (Plain.object keys values).cons
      rw [written] at enough ⊢
      simp only [List.length_append, List.length_cons] at enough
      simp only [List.cons_append, List.append_assoc, List.nil_append]
      have taken := @Reads.members fuel reads letters value more layout.inner layout.lineBreak rest
        inner further (isBlank_lineBreak layout) (by omega)
      rw [colon_inner] at taken
      exact takeValue_object (isBlank_lineBreak _) rfl (by decide) taken

end

theorem reads (fuel : Nat) : Reads fuel := by
  induction fuel with
  | zero =>
    constructor
    · intro value layout rest plain _ enough
      obtain ⟨first, more, head, _⟩ := head_written plain layout
      rw [head, List.length_cons] at enough
      omega
    · intros
      omega
    · intros
      omega
  | succ fuel ih =>
    constructor
    · intro value layout rest plain stops enough
      exact ih.nextValue plain stops enough
    · intro first rest layout closing after plain blanks enough
      exact ih.nextItems plain blanks (by omega)
    · intro characters value rest layout closing after plain others blanks enough
      exact ih.nextMembers plain others blanks (by omega)

/-- What is written of a plain value is read back as that value. -/
theorem parse_written {value : JsonValue} (plain : Plain value) (layout : Layout) :
    parse (String.ofList (written layout value)) = some value := by
  have stops : Stops [] := by
    intro first more impossible
    cases impossible
  have taken := (reads (2 * (written layout value).length + 2)).value layout plain stops (by omega)
  rw [List.append_nil] at taken
  rw [parse, String.toList_ofList]
  simp only [taken, Option.bind_eq_bind, Option.bind_some]
  rfl

end SegmentOffload.JsonValue
