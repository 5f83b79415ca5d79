import PackageProvider.Json.Value

set_option autoImplicit false

/-! What a JSON number stands for. Digits are gathered in a 64-bit significand. Digits
that no longer fit are dropped, those before the point counting towards the power of ten,
and the double is the significand rounded and then multiplied or divided by that power. -/

namespace PackageProvider.Json.Number

structure Numeral where
  negative : Bool
  whole : List Nat
  fraction : Option (List Nat)
  exponent : Option (Bool × List Nat)
  deriving DecidableEq, Repr

def largestSignificand : Nat := UInt64.size - 1

def largestPower : Nat := 308

def largestExponent : Nat := Nat.pow 2 31 - 1

/-- Gathers digits while they fit; the second number counts those that did not. -/
def gatherWhole : List Nat → Nat → Nat × Nat
  | [], significand => (significand, 0)
  | digit :: rest, significand =>
      let next := significand * 10 + digit
      if next ≤ largestSignificand then gatherWhole rest next else (significand, rest.length + 1)

/-- Gathers digits after the point while they fit; the second number counts those that did. -/
def gatherFraction : List Nat → Nat → Nat → Nat × Nat
  | [], significand, taken => (significand, taken)
  | digit :: rest, significand, taken =>
      let next := significand * 10 + digit
      if next ≤ largestSignificand then gatherFraction rest next (taken + 1)
      else (significand, taken)

def tenTo (power : Nat) : Float := Float.ofScientific 1 false power

def divideByTenTo (x : Float) (power : Nat) : Float :=
  if power ≤ largestPower then x / tenTo power
  else if x == 0.0 then x
  else divideByTenTo (x / tenTo largestPower) (power - largestPower)
termination_by power
decreasing_by simp only [largestPower] at *; omega

def scale? (significand : Nat) (power : Int) : Option Float :=
  let x := Float.ofNat significand
  if power < 0 then some (divideByTenTo x (-power).toNat)
  else if largestPower < power.toNat then (if significand = 0 then some x else none)
  else
    let scaled := x * tenTo power.toNat
    if scaled.isInf then none else some scaled

def exponentOf? (digits : List Nat) : Option Nat :=
  let value := digits.foldl (fun value digit => value * 10 + digit) 0
  if value ≤ largestExponent then some value else none

def real? (numeral : Numeral) : Option Float :=
  let (gathered, dropped) := gatherWhole numeral.whole 0
  let (significand, taken) := gatherFraction (numeral.fraction.getD []) gathered 0
  let start : Int := (dropped : Int) - taken
  let magnitude? :=
    match numeral.exponent with
    | none => scale? significand start
    | some (falls, digits) =>
        match exponentOf? digits with
        | none => if significand ≠ 0 ∧ !falls then none else some 0.0
        | some exponent =>
            let power := if falls then start - exponent else start + exponent
            scale? significand (max (min power largestExponent) (-(largestExponent : Int) - 1))
  magnitude?.map fun magnitude => if numeral.negative then -magnitude else magnitude

/-- The number of a numeral, if there is one. It is whole if it has neither a fraction nor
an exponent and fits into 64 bits, with a sign bit where it is negative. -/
def ofNumeral? (numeral : Numeral) : Option Number :=
  let (significand, dropped) := gatherWhole numeral.whole 0
  if numeral.fraction.isNone && numeral.exponent.isNone && dropped == 0 then
    if !numeral.negative then some (.whole significand)
    else if 0 < significand ∧ significand ≤ Nat.pow 2 63 then some (.whole (-(significand : Int)))
    else some (.real (-(Float.ofNat significand)))
  else (real? numeral).map .real

end PackageProvider.Json.Number
