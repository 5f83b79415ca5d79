import PackageProvider.Decimal.Binary

set_option autoImplicit false

/-! The fewest decimal digits that read back to a double.

The reals that round to a double form an interval around it, ends included exactly when
the significand is even. A decimal of some number of digits lies in the interval only if
one of the two decimals of that many digits next to the double does, so the digit counts
are tried in turn with those two. -/

namespace PackageProvider.Decimal

structure Digits where
  digits : Nat
  exponent : Int
  deriving DecidableEq, Repr

/-- The interval of a positive double over a common denominator: `low`, `value` and `high`
are multiples of a quarter of the unit in its last place. -/
structure Interval where
  low : Nat
  value : Nat
  high : Nat
  denominator : Nat
  closed : Bool

/-- Below a power of two the doubles lie twice as close. -/
def Interval.around (significand : Nat) (exponent : Int) : Interval :=
  let (scale, denominator) := powerQuotient 2 (exponent - 2)
  let step := if significand = fullPrecision ∧ leastExponent < exponent then 1 else 2
  { low := (4 * significand - step) * scale
    value := 4 * significand * scale
    high := (4 * significand + 2) * scale
    denominator
    closed := significand % 2 = 0 }

namespace Interval

def contains (interval : Interval) (digits : Nat) (exponent : Int) : Bool :=
  let (up, down) := powerQuotient 10 exponent
  let candidate := digits * up * interval.denominator
  let low := interval.low * down
  let high := interval.high * down
  if interval.closed then low ≤ candidate && candidate ≤ high
  else low < candidate && candidate < high

/-- Of the decimals `digits * 10 ^ exponent` and its successor, those in the interval; of
two the nearer one, and the greater one halfway. -/
def nearest? (interval : Interval) (digits : Nat) (exponent : Int) : Option Nat :=
  match interval.contains digits exponent, interval.contains (digits + 1) exponent with
  | true, true =>
      let (up, down) := powerQuotient 10 exponent
      let middle := (2 * digits + 1) * up * interval.denominator
      if 2 * interval.value * down < middle then some digits else some (digits + 1)
  | true, false => some digits
  | false, true => some (digits + 1)
  | false, false => none

def magnitude (interval : Interval) : Int :=
  let whole := interval.value / interval.denominator
  if whole = 0 then 1 - ((Nat.toDigits 10 (interval.denominator / interval.value)).length : Int)
  else (Nat.toDigits 10 whole).length

def ofCount? (interval : Interval) (count : Nat) : Option Digits :=
  let exponent := interval.magnitude - count
  let (up, down) := powerQuotient 10 exponent
  let below := interval.value * down / (interval.denominator * up)
  (interval.nearest? below exponent).map fun digits => ⟨digits, exponent⟩

end Interval

def Digits.trimmed (decimal : Digits) : Nat → Digits
  | 0 => decimal
  | fuel + 1 =>
      if decimal.digits ≠ 0 ∧ decimal.digits % 10 = 0 then
        Digits.trimmed ⟨decimal.digits / 10, decimal.exponent + 1⟩ fuel
      else decimal

def shortest (significand : Nat) (exponent : Int) : Digits :=
  let interval := Interval.around significand exponent
  let found := (List.range 17).findSome? fun fewer => interval.ofCount? (fewer + 1)
  (found.getD ⟨0, 0⟩).trimmed 18

end PackageProvider.Decimal
