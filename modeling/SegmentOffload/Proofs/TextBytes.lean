import SegmentOffload.Text

/-!
Text as bytes, character by character.

The encoding of a text is the encodings of its characters one after the other, each of them at least
one byte long.  Only the character zero has a zero byte in its encoding, so a text without that
character can be closed by a zero byte and found again; `NulFree` is the condition under which this
works, on the text and on its bytes.
-/

namespace SegmentOffload

/-- A text without the character zero. -/
def NulFree (text : String) : Prop :=
  '\x00' ∉ text.toList

instance (text : String) : Decidable (NulFree text) :=
  inferInstanceAs (Decidable ('\x00' ∉ text.toList))

/-! ### Characters one after the other -/

theorem textBytes_eq_flatMap (text : String) :
    textBytes text = text.toList.flatMap String.utf8EncodeChar := by
  have encoded : text.toList.utf8Encode = text.toByteArray := String.utf8Encode_toList
  rw [textBytes, ← encoded, List.utf8Encode]
  simp

theorem textBytes_ofList (characters : List Char) :
    textBytes (String.ofList characters) = characters.flatMap String.utf8EncodeChar := by
  rw [textBytes_eq_flatMap, String.toList_ofList]

/-! ### How long the bytes are -/

theorem length_le_length_flatMap {α β : Type} {write : α → List β} {items : List α}
    (filled : ∀ item ∈ items, write item ≠ []) : items.length ≤ (items.flatMap write).length := by
  induction items with
  | nil => exact Nat.le_refl _
  | cons item rest ih =>
    have positive : 0 < (write item).length :=
      List.length_pos_iff.mpr (filled item (List.mem_cons_self ..))
    have others := ih fun other listed => filled other (List.mem_cons_of_mem _ listed)
    rw [List.flatMap_cons, List.length_append, List.length_cons]
    omega

theorem length_textBytes (text : String) : (textBytes text).length = text.utf8ByteSize := by
  rw [textBytes, Array.length_toList, ByteArray.size_data, String.size_toByteArray]

theorem length_toList_le_length_textBytes (text : String) :
    text.toList.length ≤ (textBytes text).length := by
  rw [textBytes_eq_flatMap]
  exact length_le_length_flatMap fun _ _ => String.utf8EncodeChar_ne_nil

theorem length_textBytes_ofList_of_ascii {characters : List Char}
    (ascii : ∀ character ∈ characters, character.toNat < 128) :
    (textBytes (String.ofList characters)).length = characters.length := by
  rw [textBytes_ofList]
  induction characters with
  | nil => rfl
  | cons character rest ih =>
    have small : character.val.toNat ≤ 127 := by
      have below := ascii character List.mem_cons_self
      rw [← Char.toNat_val] at below
      omega
    have single : (String.utf8EncodeChar character).length = 1 := by
      simp only [String.utf8EncodeChar, if_pos small, List.length_singleton]
    have later := ih fun other member => ascii other (List.mem_cons_of_mem _ member)
    rw [List.flatMap_cons, List.length_append, single, later, List.length_cons, Nat.add_comm]

/-! ### Zero bytes -/

theorem zero_mem_utf8EncodeChar_iff (character : Char) :
    0 ∈ String.utf8EncodeChar character ↔ character = '\x00' := by
  have bound : character.toNat < 1114112 := by
    have valid := character.valid
    simp only [UInt32.isValidChar, Nat.isValidChar] at valid
    simp only [Char.toNat]
    omega
  have same : character = '\x00' ↔ character.toNat = 0 := by
    rw [Char.ext_iff, ← UInt32.toNat_inj]
    rfl
  rw [same]
  unfold String.utf8EncodeChar
  dsimp only
  split
  · rename_i single
    rw [Char.toNat_val] at single
    simp [← UInt8.toNat_inj]
    omega
  · rename_i several
    -- every byte of a longer encoding has its highest bit set
    rw [Char.toNat_val] at several
    split
    · simp [← UInt8.toNat_inj]
      omega
    · split
      · simp [← UInt8.toNat_inj]
        omega
      · simp [← UInt8.toNat_inj]
        omega

theorem nulFree_iff_zero_notMem_textBytes (text : String) :
    NulFree text ↔ 0 ∉ textBytes text := by
  rw [NulFree, textBytes_eq_flatMap, List.mem_flatMap]
  constructor
  · intro free given
    rcases given with ⟨character, member, zero⟩
    rw [zero_mem_utf8EncodeChar_iff] at zero
    rw [zero] at member
    exact free member
  · intro free member
    exact free ⟨'\x00', member, (zero_mem_utf8EncodeChar_iff _).mpr rfl⟩

theorem nulFree_append_iff (left right : String) :
    NulFree (left ++ right) ↔ NulFree left ∧ NulFree right := by
  simp only [NulFree, String.toList_append, List.mem_append, not_or]

theorem NulFree.append {left right : String} (front : NulFree left) (back : NulFree right) :
    NulFree (left ++ right) :=
  (nulFree_append_iff left right).mpr ⟨front, back⟩

/-! ### Fronts -/

theorem utf8EncodeChar_append_inj {left right : Char} {after behind : Bytes}
    (same : String.utf8EncodeChar left ++ after = String.utf8EncodeChar right ++ behind) :
    left = right ∧ after = behind := by
  have decoded : ∀ (character : Char) (more : Bytes),
      (String.utf8EncodeChar character ++ more).toByteArray.utf8DecodeChar? 0 =
        some character := by
    intro character more
    rw [List.toByteArray_append]
    exact ByteArray.utf8DecodeChar?_utf8EncodeChar_append
  have first := decoded left after
  rw [same, decoded] at first
  cases first
  exact ⟨rfl, List.append_cancel_left same⟩

theorem isPrefix_of_flatMap_utf8EncodeChar {front whole : List Char}
    (begins : front.flatMap String.utf8EncodeChar <+: whole.flatMap String.utf8EncodeChar) :
    front <+: whole := by
  induction front generalizing whole with
  | nil => exact List.nil_prefix
  | cons character rest ih =>
    obtain ⟨behind, same⟩ := begins
    cases whole with
    | nil =>
      rw [List.flatMap_cons, List.flatMap_nil, List.append_assoc, List.append_eq_nil_iff] at same
      exact absurd same.1 String.utf8EncodeChar_ne_nil
    | cons other more =>
      rw [List.flatMap_cons, List.flatMap_cons, List.append_assoc] at same
      obtain ⟨first, others⟩ := utf8EncodeChar_append_inj same
      rw [first, List.cons_prefix_cons]
      exact ⟨rfl, ih ⟨behind, others⟩⟩

/-- A text begins with another byte for byte exactly when it does so character for character. -/
theorem beginsWith_eq_true_iff {start text : String} :
    beginsWith start text = true ↔ start.toList <+: text.toList := by
  rw [beginsWith, List.isPrefixOf_iff_prefix, textBytes_eq_flatMap, textBytes_eq_flatMap]
  constructor
  · exact isPrefix_of_flatMap_utf8EncodeChar
  · rintro ⟨rest, same⟩
    rw [← same, List.flatMap_append]
    exact List.prefix_append _ _

end SegmentOffload
