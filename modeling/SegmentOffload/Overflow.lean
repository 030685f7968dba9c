/-!
Arithmetic on 64-bit words that stops instead of wrapping.

A sum or difference outside the range of a word has no value; what goes wrong is named by
`Overflow`, and every caller either passes it on or is a place where it cannot arise.
-/

namespace SegmentOffload

/-- An operation whose exact result is not a word. -/
inductive Overflow where
  | addition
  | subtraction
deriving DecidableEq, Repr

def Overflow.message : Overflow → String
  | .addition => "attempt to add with overflow"
  | .subtraction => "attempt to subtract with overflow"

/-- The exact sum of two words, when it is a word. -/
def addWords (left right : UInt64) : Except Overflow UInt64 :=
  if left.toNat + right.toNat < UInt64.size then .ok (left + right) else .error .addition

/-- The exact difference of two words, when it is a word. -/
def subtractWords (left right : UInt64) : Except Overflow UInt64 :=
  if right.toNat ≤ left.toNat then .ok (left - right) else .error .subtraction

/-- Add words one after the other, from the left. -/
def sumWordsFrom : UInt64 → List UInt64 → Except Overflow UInt64
  | total, [] => .ok total
  | total, word :: rest =>
    match addWords total word with
    | .ok extended => sumWordsFrom extended rest
    | .error overflow => .error overflow

/-- The exact sum of a list of words, when it is a word. -/
def sumWords (words : List UInt64) : Except Overflow UInt64 :=
  sumWordsFrom 0 words

theorem addWords_eq_ok_iff {left right total : UInt64} :
    addWords left right = .ok total ↔ total.toNat = left.toNat + right.toNat := by
  have bound := total.toNat_lt
  constructor
  · intro added
    simp only [addWords, UInt64.size] at added
    split at added
    · cases added
      rw [UInt64.toNat_add]
      omega
    · cases added
  · intro exact
    have fits : left.toNat + right.toNat < UInt64.size := by
      simp only [UInt64.size]
      omega
    rw [addWords, if_pos fits]
    congr 1
    apply UInt64.toNat_inj.mp
    rw [UInt64.toNat_add]
    omega

theorem subtractWords_eq_ok_iff {left right difference : UInt64} :
    subtractWords left right = .ok difference ↔
      left.toNat = right.toNat + difference.toNat := by
  constructor
  · intro subtracted
    simp only [subtractWords] at subtracted
    split at subtracted
    · rename_i within
      cases subtracted
      rw [UInt64.toNat_sub_of_le left right (UInt64.le_iff_toNat_le.mpr within)]
      omega
    · cases subtracted
  · intro exact
    have within : right.toNat ≤ left.toNat := by omega
    rw [subtractWords, if_pos within]
    congr 1
    apply UInt64.toNat_inj.mp
    rw [UInt64.toNat_sub_of_le left right (UInt64.le_iff_toNat_le.mpr within)]
    omega

end SegmentOffload
