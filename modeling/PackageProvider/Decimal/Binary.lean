set_option autoImplicit false

/-! Double-precision numbers taken apart: a finite one is a whole number times a power of
two, which is a quotient of natural numbers. -/

namespace PackageProvider.Decimal

/-- What a double stands for: `significand * 2 ^ exponent` with a sign, or no number. -/
inductive Reading where
  | finite (negative : Bool) (significand : Nat) (exponent : Int)
  | infinite (negative : Bool)
  | notANumber
  deriving DecidableEq, Repr

def leastExponent : Int := -1074

def fullPrecision : Nat := Nat.pow 2 52

def exponentCodes : Nat := Nat.pow 2 11

def read (x : Float) : Reading :=
  let bits : Nat := x.toBits.toNat
  let negative := bits / Nat.pow 2 63 == 1
  let biased : Nat := bits / fullPrecision % exponentCodes
  let fraction : Nat := bits % fullPrecision
  if biased + 1 = exponentCodes then
    if fraction = 0 then .infinite negative else .notANumber
  else if biased = 0 then .finite negative fraction leastExponent
  else .finite negative (fraction + fullPrecision) ((biased : Int) + leastExponent - 1)

def powerQuotient (base : Nat) (exponent : Int) : Nat × Nat :=
  if 0 ≤ exponent then (Nat.pow base exponent.toNat, 1) else (1, Nat.pow base (-exponent).toNat)

end PackageProvider.Decimal
