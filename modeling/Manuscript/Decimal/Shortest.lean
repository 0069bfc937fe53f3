/-!
# The fewest decimal digits that read back

A binary floating-point number stands for the interval of reals that round to it. `Decimal.shortest`
finds the decimal with the fewest digits in that interval, and of those the one nearest to the
number. All arithmetic is on natural numbers, so nothing is lost on the way.
-/

namespace Manuscript

/-- The number `digits * 10 ^ exponent`. -/
structure Decimal where
  digits : Nat
  exponent : Int
  deriving DecidableEq, Repr

/-- The positive number `mantissa * 2 ^ exponent` among its neighbours. Below a power of two the
gap to the next number is half of the gap above, which `narrowBelow` says. -/
structure Binary where
  mantissa : Nat
  exponent : Int
  narrowBelow : Bool
  deriving DecidableEq, Repr

namespace Binary

/-- The magnitude of a finite number with these bits. -/
def ofBits (bits : UInt64) : Binary :=
  let fraction : Nat := bits.toNat % Nat.pow 2 52
  let field : Nat := bits.toNat / Nat.pow 2 52 % Nat.pow 2 11
  if field = 0 then ⟨fraction, -1074, false⟩
  else ⟨Nat.pow 2 52 + fraction, (field : Int) - 1075, fraction == 0 && 1 < field⟩

end Binary

namespace Decimal

/-- Whether `c * 10 ^ e` is at most `a / b`. -/
def atMost (c : Nat) (e : Int) (a b : Nat) : Bool :=
  c * Nat.pow 10 e.toNat * b ≤ a * Nat.pow 10 (-e).toNat

/-- Whether `a / b` is at most `c * 10 ^ e`. -/
def atLeast (c : Nat) (e : Int) (a b : Nat) : Bool :=
  a * Nat.pow 10 (-e).toNat ≤ c * Nat.pow 10 e.toNat * b

/-- How far `c * 10 ^ e` is from `a / b`, in units that depend on `e`, `a` and `b` alone. -/
def distance (c : Nat) (e : Int) (a b : Nat) : Nat :=
  let here := c * Nat.pow 10 e.toNat * b
  let there := a * Nat.pow 10 (-e).toNat
  max here there - min here there

/-- The exponent of the leading decimal digit of `a / b`. -/
def leadingExponent (a b : Nat) : Int :=
  if b ≤ a then (Nat.toDigits 10 (a / b)).length - 1
  else
    let places := (List.range ((Nat.toDigits 10 b).length + 1)).find? (b ≤ a * Nat.pow 10 ·)
    0 - (places.getD 0 : Int)

/-- Move trailing zeros from the digits to the exponent. -/
def trimmed (fuel : Nat) (decimal : Decimal) : Decimal :=
  match fuel with
  | 0 => decimal
  | fuel + 1 =>
    if decimal.digits ≠ 0 ∧ decimal.digits % 10 = 0 then
      trimmed fuel ⟨decimal.digits / 10, decimal.exponent + 1⟩
    else decimal

/-- The decimal of `count` digits that reads back as the number, if there is one; of two the nearer,
of two equally near the greater. -/
def ofDigitCount? (number : Binary) (count : Nat) : Option Decimal :=
  let scale := Nat.pow 2 (number.exponent - 2).toNat
  let unit := Nat.pow 2 (2 - number.exponent).toNat
  let value := 4 * number.mantissa * scale
  let low := (4 * number.mantissa - if number.narrowBelow then 1 else 2) * scale
  let high := (4 * number.mantissa + 2) * scale
  let e := leadingExponent value unit - (count - 1)
  let below := value * Nat.pow 10 (-e).toNat / (unit * Nat.pow 10 e.toNat)
  let within (c : Nat) : Bool :=
    if number.mantissa % 2 = 0 then atLeast c e low unit && atMost c e high unit
    else !atMost c e low unit && !atLeast c e high unit
  let near := distance below e value unit
  let far := distance (below + 1) e value unit
  let nearer := if near < far then below else below + 1
  let other := if nearer = below then below + 1 else below
  if within nearer then some ⟨nearer, e⟩
  else if within other then some ⟨other, e⟩
  else none

/-- The decimal with the fewest digits that reads back as the number; seventeen always do. -/
def shortest (number : Binary) : Decimal :=
  trimmed 400
    (((List.range' 1 17).findSome? (ofDigitCount? number)).getD ⟨number.mantissa, 0⟩)

/-- The decimal without an exponent, and without a point where it is whole. -/
def positional (decimal : Decimal) : String :=
  let digits := Nat.toDigits 10 decimal.digits
  let places := (-decimal.exponent).toNat
  if places = 0 then String.ofList (digits ++ List.replicate decimal.exponent.toNat '0')
  else
    let padded := List.replicate (places + 1 - digits.length) '0' ++ digits
    let whole := padded.length - places
    String.ofList (padded.take whole ++ '.' :: padded.drop whole)

/-- The text of a number: the fewest digits that read back, never an exponent, and a minus sign also
in front of a negative zero. -/
def text (x : Float) : String :=
  if x.isNaN then "NaN"
  else
    (if Nat.pow 2 63 ≤ x.toBits.toNat then "-" else "") ++
      if x.isInf then "inf"
      else
        let number := Binary.ofBits x.toBits
        if number.mantissa = 0 then "0" else (shortest number).positional

end Decimal

end Manuscript
