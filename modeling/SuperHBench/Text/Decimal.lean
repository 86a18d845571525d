import SuperHBench.Text.Digits

/-! # Decimal text of binary numbers

A single-precision number is written with the fewest digits that read back as the
same number, of those with the nearest, and never with an exponent. The search
walks from coarse decimal grids to finer ones and stops at the first that has a
point among the reals that round to the number. Percentages are rounded exactly. -/

namespace SuperHBench.Text

open Float.Model (Format UnpackedFloat)

/-! ## Decimals -/

structure Decimal where
  digits : Nat
  exponent : Int
deriving DecidableEq, Repr

def Decimal.text (decimal : Decimal) : String :=
  let digits := toString decimal.digits
  if 0 ≤ decimal.exponent then
    digits ++ String.ofList (List.replicate decimal.exponent.toNat '0')
  else
    let places := decimal.exponent.natAbs
    let digits := (padLeft (places + 1) '0' digits).toList
    let split := digits.length - places
    String.ofList (digits.take split) ++ "." ++ String.ofList (digits.drop split)

example : Decimal.text ⟨125, -2⟩ = "1.25" := by decide
example : Decimal.text ⟨5, -3⟩ = "0.005" := by decide
example : Decimal.text ⟨5, 3⟩ = "5000" := by decide

/-! ## Shortest decimals -/

/-- A number with the bounds of the reals that round to it, all in fractions of
one denominator. -/
structure RoundingInterval where
  low : Nat
  value : Nat
  high : Nat
  denominator : Nat
  /-- Whether the bounds themselves round to the number. -/
  closed : Bool

namespace RoundingInterval

/-- The interval of `mantissa * 2 ^ exponent`. Bounds lie half way to the neighbours,
and the lower neighbour of a power of two is nearer unless both are subnormal. -/
def ofFinite (mantissa : Nat) (exponent : Int) : RoundingInterval :=
  let scale := Nat.pow 2 exponent.toNat
  let nearBelow := mantissa = 0x800000 ∧ exponent > -149
  { low := (4 * mantissa - if nearBelow then 1 else 2) * scale
    value := 4 * mantissa * scale
    high := (4 * mantissa + 2) * scale
    denominator := 4 * Nat.pow 2 (-exponent).toNat
    closed := mantissa % 2 = 0 }

def contains (interval : RoundingInterval) (numerator denominator : Nat) : Bool :=
  let low := interval.low * denominator
  let point := numerator * interval.denominator
  let high := interval.high * denominator
  if interval.closed then low ≤ point && point ≤ high else low < point && point < high

/-- The point of the grid of multiples of `10 ^ exponent` that is nearest to the
number and reads back as it. Of two equally near points the greater one counts. -/
def nearestOnGrid? (interval : RoundingInterval) (exponent : Int) : Option Decimal :=
  let step := Nat.pow 10 exponent.toNat
  let denominator := Nat.pow 10 (-exponent).toNat
  let value := interval.value * denominator
  let unit := interval.denominator * step
  let below := value / unit
  let nearest := if 2 * (value % unit) < unit then [below, below + 1] else [below + 1, below]
  (nearest.find? fun point => interval.contains (point * step) denominator).map
    fun point => ⟨point, exponent⟩

/-- The first hit on the grids from above the greatest number to below the least. -/
def shortest (interval : RoundingInterval) : Decimal :=
  ((List.range 90).findSome? fun (place : Nat) =>
    interval.nearestOnGrid? (40 - place)).getD ⟨0, 0⟩

end RoundingInterval

def signText : UnpackedFloat.Sign → String
  | .negative => "-"
  | .positive => ""

def single (bits : UInt32) : String :=
  match (Float32.Model.ofBits bits).unpack with
  | .notANumber => "NaN"
  | .infinity sign => signText sign ++ "inf"
  | .zero sign => signText sign ++ "0"
  | .finite sign mantissa exponent _ =>
      signText sign ++ (RoundingInterval.ofFinite mantissa exponent).shortest.text

/-! ## Fixed places -/

/-- The nearest natural number to a fraction; half a unit goes to the even one. -/
def roundFraction (numerator denominator : Nat) : Nat :=
  let quotient := numerator / denominator
  let twice := 2 * (numerator % denominator)
  if twice < denominator ∨ (twice = denominator ∧ quotient % 2 = 0) then
    quotient
  else
    quotient + 1

def fixed (places : Nat) (value : Float.Model) : String :=
  let rounded := match value.unpack with
    | .finite _ mantissa exponent _ =>
        roundFraction (mantissa * Nat.pow 2 exponent.toNat * Nat.pow 10 places)
          (Nat.pow 2 (-exponent).toNat)
    | _ => 0
  Decimal.text ⟨rounded, -places⟩

end SuperHBench.Text
