import SegmentOffload.Decimal

/-!
Numbers of 64 bits in binary floating point.

The sizes that such a number can have are ranked: rank zero is zero, every rank is the size next
above the one before, and the last rank is infinity.  A decimal number is read as the nearest size,
an even rank where two are equally near; a number is written with the fewest digits that read back
as it, and of those with the nearest ones, never with an exponent.
-/

namespace SegmentOffload

inductive Binary64 where
  | nan
  | number (isNegative : Bool) (rank : Nat)
deriving DecidableEq, Repr

namespace Binary64

/-- The number of sizes between two powers of two. -/
def binade : Nat := 1 <<< 52

def infiniteRank : Nat := 2047 * binade

def fraction (rank : Nat) : Nat × Nat :=
  if rank < binade then (rank, 1 <<< 1074)
  else
    let significand := binade + rank % binade
    let power := rank / binade
    if power < 1075 then (significand, 1 <<< (1075 - power))
    else (significand <<< (power - 1075), 1)

def scaleDown (power : Int) (numerator denominator : Nat) : Nat × Nat :=
  if 0 ≤ power then (numerator, denominator <<< power.toNat)
  else (numerator <<< (-power).toNat, denominator)

/-- The power of two by which a fraction has to be divided to count the sizes around it. -/
def unitPower (numerator denominator : Nat) : Int :=
  let power : Int := (Nat.log2 numerator : Int) - Nat.log2 denominator - 52
  let (scaled, unit) := scaleDown power numerator denominator
  max (-1074) (if scaled / unit < binade then power - 1 else power)

/-- The rank of the size that is nearest to a fraction. -/
def nearestRank (numerator denominator : Nat) : Nat :=
  if numerator = 0 then 0
  else
    let power := unitPower numerator denominator
    let (scaled, unit) := scaleDown power numerator denominator
    let below := scaled / unit
    let left := scaled % unit
    let isUp := unit < 2 * left || (unit == 2 * left && below % 2 == 1)
    min infiniteRank ((power + 1074).toNat * binade + below + if isUp then 1 else 0)

/-- A whole number times a power of ten, as a fraction. -/
def decimalFraction (digits : Nat) (power : Int) : Nat × Nat :=
  if 0 ≤ power then (digits * Nat.pow 10 power.toNat, 1)
  else (digits, Nat.pow 10 (-power).toNat)

/-- The rank that is nearest to a whole number times a power of ten.  What lies far beyond the ranks
is told by the number of digits. -/
def decimalRank (digits : Nat) (power : Int) : Nat :=
  let length : Int := (decimalDigits digits).length
  if digits = 0 ∨ length + power < -400 then 0
  else if 400 < length + power then infiniteRank
  else
    let (numerator, denominator) := decimalFraction digits power
    nearestRank numerator denominator

/-! ### Reading -/

def digitsValue (digits : List Char) : Nat :=
  digits.foldl (fun value digit => value * 10 + (digit.toNat - 48)) 0

/-- The power of ten after a number: nothing, or a letter `e` and a whole number. -/
def readPower? : List Char → Option Int
  | [] => some 0
  | letter :: rest =>
    if letter = 'e' ∨ letter = 'E' then
      let (isNegative, digits) :=
        match rest with
        | '-' :: digits => (true, digits)
        | '+' :: digits => (false, digits)
        | digits => (false, digits)
      if digits.isEmpty || !digits.all Char.isDigit then none
      else
        let value : Int := digitsValue digits
        some (if isNegative then -value else value)
    else none

/-- The rank that digits with at most one point among them and a power of ten spell. -/
def readRank? (characters : List Char) : Option Nat :=
  let (whole, rest) := characters.span Char.isDigit
  let (decimals, rest) :=
    match rest with
    | '.' :: rest => rest.span Char.isDigit
    | rest => ([], rest)
  if whole.isEmpty && decimals.isEmpty then none
  else
    (readPower? rest).map fun power =>
      decimalRank (digitsValue (whole ++ decimals)) (power - decimals.length)

def readUnsigned? (isNegative : Bool) (characters : List Char) : Option Binary64 :=
  let word := String.ofList (characters.map Char.toLower)
  if word = "nan" then some nan
  else if word = "inf" ∨ word = "infinity" then some (number isNegative infiniteRank)
  else (readRank? characters).map (number isNegative)

def parse? (text : String) : Option Binary64 :=
  match text.toList with
  | '-' :: characters => readUnsigned? true characters
  | '+' :: characters => readUnsigned? false characters
  | characters => readUnsigned? false characters

/-! ### Writing -/

/-- The whole number that, times a power of ten, reads back as a rank; of two the nearer one. -/
def digitsAt? (rank : Nat) (power : Int) : Option Nat :=
  let (numerator, denominator) := fraction rank
  let (scale, unit) := decimalFraction 1 power
  let dividend := numerator * unit
  let divisor := denominator * scale
  let below := dividend / divisor
  let readsBack (digits : Nat) := decimalRank digits power == rank
  let isUpNearer := divisor ≤ 2 * (dividend % divisor)
  if readsBack (below + 1) && (isUpNearer || !readsBack below) then some (below + 1)
  else if readsBack below then some below
  else none

/-- The fewest digits that read back as a rank, and the power of ten behind them. -/
def shortest? (rank : Nat) : Option (Nat × Int) :=
  (List.range 640).findSome? fun (index : Nat) =>
    let power : Int := 310 - (index : Int)
    (digitsAt? rank power).map fun digits => (digits, power)

/-- A whole number times a power of ten, without an exponent. -/
def positional (digits : Nat) (power : Int) : String :=
  let characters := decimalDigits digits
  if 0 ≤ power then String.ofList (characters ++ List.replicate power.toNat '0')
  else
    let places := (-power).toNat
    let padded := List.replicate (places + 1 - characters.length) '0' ++ characters
    let (whole, decimals) := padded.splitAt (padded.length - places)
    String.ofList (whole ++ '.' :: decimals)

def sizeText (rank : Nat) : String :=
  if rank = 0 then "0"
  else if infiniteRank ≤ rank then "inf"
  else
    match shortest? rank with
    | some (digits, power) => positional digits power
    | none => ""

def toText : Binary64 → String
  | nan => "NaN"
  | number isNegative rank => (if isNegative then "-" else "") ++ sizeText rank

/-- Where a number stands among all others; both zeros stand at the same place. -/
def place : Binary64 → Int
  | nan => 0
  | number isNegative rank => if isNegative then -(rank : Int) else rank

end Binary64

end SegmentOffload
