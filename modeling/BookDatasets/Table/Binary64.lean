/-
  Reals of a table: from a decimal spelling to a binary64 number, and from there to fifteen digits.

  1. **Exactness** — everything is computed with natural numbers.  A spelling is the quotient
     `numerator / denominator`; a number is `mantissa * 2 ^ exponent`.
  2. **Spellings** — a spelling names the number that is nearest to it: a tie goes to the EVEN mantissa,
     exponents stop at -1074, and what is too large for the format is infinite.
  3. **Wide numbers** — the database engine itself is not that exact.  It scales by powers of ten with 64
     binary digits, and rounds after every step, the same way for texts that it reads and for numbers
     that it writes.
  4. **Writing** — fifteen significant digits, a half rounds up.  A point is always there with a
     digit on both sides; trailing zeros are not.  Below 10^-4 and from 10^15 on the number is
     written with an exponent of at least two digits.
-/
import BookDatasets.Text.Basic

namespace BookDatasets

namespace Table

/-- A binary64 number. -/
inductive Binary64 where
  /-- The number `mantissa * 2 ^ exponent`, or its negation. -/
  | finite (negative : Bool) (mantissa : Nat) (exponent : Int)
  | infinite (negative : Bool)
  | notANumber
  deriving DecidableEq, Repr

namespace Binary64

/-! ## Quotients -/

/-- A quotient of natural numbers times a power. -/
def scaled (base numerator denominator : Nat) (power : Int) : Nat × Nat :=
  match power with
  | .ofNat n => (numerator * Nat.pow base n, denominator)
  | .negSucc n => (numerator, denominator * Nat.pow base (n + 1))

/-- The quotient rounded to the nearest natural number, a tie to the even one. -/
def roundedToEven (numerator denominator : Nat) : Nat :=
  let whole := numerator / denominator
  let twice := 2 * (numerator % denominator)
  if denominator < twice ∨ (twice = denominator ∧ whole % 2 = 1) then whole + 1 else whole

/-- The quotient rounded to the nearest natural number, a tie upwards. -/
def roundedUp (numerator denominator : Nat) : Nat :=
  (2 * numerator + denominator) / (2 * denominator)

/-- The greatest power of two that is not above a positive quotient. -/
def floorLog2 (numerator denominator : Nat) : Int :=
  let guess : Int := numerator.log2 - denominator.log2
  let (n, d) := scaled 2 numerator denominator (-guess)
  if d ≤ n then guess else guess - 1

/-! ## Spellings -/

/-- The number nearest to a quotient. -/
def nearest (negative : Bool) (numerator denominator : Nat) : Binary64 :=
  if numerator = 0 then .finite negative 0 0
  else
    let exponent := max (floorLog2 numerator denominator - 52) (-1074)
    let (n, d) := scaled 2 numerator denominator (-exponent)
    let mantissa := roundedToEven n d
    if mantissa = 0 then .finite negative 0 0
    else if 971 < exponent ∨ (exponent = 971 ∧ Nat.pow 2 53 ≤ mantissa) then .infinite negative
    else .finite negative mantissa exponent

/-- The number nearest to `digits * 10 ^ power`.  A power far outside the format is not worth its
digits: the number is infinite or zero. -/
def ofDecimal (negative : Bool) (digits : Nat) (power : Int) : Binary64 :=
  let size : Int := (decimal digits).length + power
  if digits = 0 ∨ size < -400 then .finite negative 0 0
  else if 400 < size then .infinite negative
  else
    let (n, d) := scaled 10 digits 1 power
    nearest negative n d

/-- The value of a digit. -/
def digitValue (c : Char) : Nat := c.toNat - '0'.toNat

/-- The number that a run of digits spells. -/
def digitsValue (digits : Text) : Nat :=
  digits.foldl (fun value c => 10 * value + digitValue c) 0

/-- A spelling without its sign, and whether the sign was a minus. -/
def withoutSign : Text → Bool × Text
  | '-' :: rest => (true, rest)
  | '+' :: rest => (false, rest)
  | t => (false, t)

/-- The power that follows the mark of an exponent. -/
def powerOf (t : Text) : Int :=
  let (negative, digits) := withoutSign t
  if negative then -(digitsValue digits : Int) else digitsValue digits

/-- The number that a spelling names. -/
def ofSpelling (spelling : Text) : Binary64 :=
  let (negative, t) := withoutSign (spelling.map foldCase)
  if t.head? = some 'i' then .infinite negative
  else if t.head? = some 'n' then .notANumber
  else
    let digits := t.takeWhile (· ≠ 'e')
    let whole := digits.takeWhile (· ≠ '.')
    let part := (digits.dropWhile (· ≠ '.')).drop 1
    ofDecimal negative (digitsValue (whole ++ part))
      (powerOf ((t.dropWhile (· ≠ 'e')).drop 1) - part.length)

/-- The integer that a number is, if it is one. -/
def whole? : Binary64 → Option Int
  | .finite negative mantissa exponent =>
    let (n, d) := scaled 2 mantissa 1 exponent
    if n % d = 0 then some (if negative then -(n / d : Nat) else (n / d : Nat)) else none
  | _ => none

/-- Whether two numbers are the same.  A zero is the same with either sign. -/
def isSame : Binary64 → Binary64 → Bool
  | .finite negative mantissa exponent, .finite negative' mantissa' exponent' =>
    let (n, d) := scaled 2 mantissa 1 exponent
    let (n', d') := scaled 2 mantissa' 1 exponent'
    n * d' == n' * d && (negative == negative' || mantissa == 0)
  | a, b => a == b

/-- A spelling of exactly this number. -/
def spelling : Binary64 → Text
  | .finite negative mantissa exponent =>
    let digits :=
      match exponent with
      | .ofNat n => decimal (mantissa * Nat.pow 2 n)
      | .negSucc n => decimal (mantissa * Nat.pow 5 (n + 1)) ++ "e-".toList ++ decimal (n + 1)
    if negative then '-' :: digits else digits
  | .infinite negative => (if negative then "-inf" else "inf").toList
  | .notANumber => "nan".toList

/-! ## Wide numbers -/

/-- A number with at most 64 binary digits, `mantissa * 2 ^ exponent`. -/
structure Wide where
  mantissa : Nat
  exponent : Int
  deriving DecidableEq, Repr

namespace Wide

/-- The wide number nearest to a positive quotient. -/
def nearest (numerator denominator : Nat) : Wide :=
  let exponent := floorLog2 numerator denominator - 63
  let (n, d) := scaled 2 numerator denominator (-exponent)
  ⟨roundedToEven n d, exponent⟩

/-- The wide number nearest to a power of ten. -/
def tenTo (power : Int) : Wide :=
  let (n, d) := scaled 10 1 1 power
  nearest n d

/-- The wide number nearest to a product. -/
def times (a b : Wide) : Wide :=
  let product := nearest (a.mantissa * b.mantissa) 1
  ⟨product.mantissa, product.exponent + a.exponent + b.exponent⟩

/-- The number as a quotient. -/
def quotient (a : Wide) : Nat × Nat := scaled 2 a.mantissa 1 a.exponent

/-- Whether a number is less than a power of ten. -/
def isBelow (power : Int) (a : Wide) : Bool :=
  let (n, d) := a.quotient
  let (n', d') := (tenTo power).quotient
  n * d' < n' * d

/-- Moves a power of ten out of a number, again as long as the number is too far off. -/
def shift (isFar : Wide → Bool) (step : Int) : (turns : Nat) → Wide × Int → Wide × Int
  | 0, shifted => shifted
  | turns + 1, (a, power) =>
    if isFar a then shift isFar step turns (a.times (tenTo (-step)), power + step) else (a, power)

/-- A whole number of up to nineteen digits, and the power of ten that makes it the number. -/
def significand (a : Wide) : Nat × Int :=
  let (a, power) :=
    if a.isBelow 19 then
      shift (isBelow 17) (-1) 12 (shift (isBelow 7) (-10) 12 (shift (isBelow (-97)) (-100) 12 (a, 0)))
    else
      shift (!isBelow 19 ·) 1 12 (shift (!isBelow 29 ·) 10 12 (shift (!isBelow 119 ·) 100 12 (a, 0)))
  let (n, d) := a.quotient
  (n / d, power)

/-- The number times a power of ten, hundreds of it first, and tens before ones. -/
def timesTenTo (power : Int) (a : Wide) : Wide :=
  let step (size : Nat) : Wide := tenTo (if power < 0 then -size else size)
  let hundreds := Nat.repeat (·.times (step 100)) (power.natAbs / 100) a
  let tens := Nat.repeat (·.times (step 10)) (power.natAbs % 100 / 10) hundreds
  Nat.repeat (·.times (step 1)) (power.natAbs % 10) tens

end Wide

/-! ## Reading a text -/

/-- The greatest number of 64 binary digits. -/
def greatest : Nat := 18446744073709551615

/-- Whether there is room for another digit. -/
def hasRoom (digits : Nat) : Bool := digits < (greatest - 9) / 10

/-- Takes in a digit in front of the point.  One too many only moves the point. -/
def takeWhole : Nat × Int → Char → Nat × Int
  | (digits, power), c =>
    if hasRoom digits then (10 * digits + digitValue c, power) else (digits, power + 1)

/-- Takes in a digit behind the point.  One too many is left out. -/
def takePart : Nat × Int → Char → Nat × Int
  | (digits, power), c =>
    if hasRoom digits then (10 * digits + digitValue c, power - 1) else (digits, power)

/-- The power that follows the mark of an exponent, if it is not out of all proportion. -/
def boundedPower (t : Text) : Int :=
  let (negative, digits) := withoutSign t
  let size : Nat := digits.foldl (fun size c => if size < 10000 then 10 * size + digitValue c else 10000) 0
  if negative then -size else size

/-- Makes a power of ten smaller, as long as the digits allow for it. -/
def settle : (turns : Nat) → Nat × Int → Nat × Int
  | 0, settled => settled
  | turns + 1, (digits, power) =>
    if 0 < power ∧ digits < greatest / 10 then settle turns (10 * digits, power - 1)
    else if power < 0 ∧ digits % 10 = 0 then settle turns (digits / 10, power + 1)
    else (digits, power)

/-- A wide number in the format, or infinite. -/
def ofWide (negative : Bool) (a : Wide) : Binary64 :=
  let (n, d) := a.quotient
  if (Nat.pow 2 53 - 1) * Nat.pow 2 971 * d < n then .infinite negative else nearest negative n d

/-- The number that is read from a text. -/
def ofText (t : Text) : Binary64 :=
  let (negative, t) := withoutSign (t.map foldCase)
  let digits := t.takeWhile (· ≠ 'e')
  let whole := (digits.takeWhile (· ≠ '.')).foldl takeWhole (0, 0)
  let (significand, shifted) := ((digits.dropWhile (· ≠ '.')).drop 1).foldl takePart whole
  if significand = 0 then .finite negative 0 0
  else
    let power := boundedPower ((t.dropWhile (· ≠ 'e')).drop 1)
    let (significand, power) := settle 20 (significand, power + shifted)
    if power = 0 then nearest negative significand 1
    else ofWide negative ((Wide.nearest significand 1).timesTenTo power)

example : ofText "0.1".toList = .finite false 7205759403792794 (-56) := by decide +kernel

/-! ## Writing -/

/-- How many significant digits are written. -/
def precision : Nat := 15

/-- The digits without the zeros they end in. -/
def withoutTrailingZeros (digits : Text) : Text := (digits.reverse.dropWhile (· = '0')).reverse

/-- Digits behind the point, at least one. -/
def fraction (digits : Text) : Text :=
  let kept := withoutTrailingZeros digits
  if kept.isEmpty then ['0'] else kept

/-- An exponent with its sign and at least two digits. -/
def exponentText (power : Int) : Text :=
  let digits := decimal power.natAbs
  ['e', if power < 0 then '-' else '+'] ++ (if digits.length < 2 then '0' :: digits else digits)

/-- Fifteen digits as a number whose first digit has the weight `10 ^ power`. -/
def placed (digits : Text) (power : Int) : Text :=
  if power < -4 ∨ precision ≤ power then
    digits.take 1 ++ ['.'] ++ fraction (digits.drop 1) ++ exponentText power
  else if power < 0 then
    "0.".toList ++ fraction (List.replicate (power.natAbs - 1) '0' ++ digits)
  else
    let places := power.toNat + 1
    digits.take places ++ ['.'] ++ fraction (digits.drop places)

/-- The text of a positive number. -/
def positiveText (number : Wide) : Text :=
  let (whole, power) := number.significand
  let spare := (decimal whole).length - precision
  let digits := decimal (roundedUp whole (Nat.pow 10 spare))
  placed (digits.take precision) (power + spare + (digits.length - 1))

/-- The text of a number; there is none for a value that is no number. -/
def text : Binary64 → Option Text
  | .finite negative mantissa exponent =>
    if mantissa = 0 then some "0.0".toList
    else
      let digits := positiveText ⟨mantissa, exponent⟩
      some (if negative then '-' :: digits else digits)
  | .infinite negative => some (if negative then "-Inf".toList else "Inf".toList)
  | .notANumber => none

end Binary64

end Table

end BookDatasets
