set_option autoImplicit false

/-! Rounding a quotient of natural numbers to the nearest whole number. -/

namespace PackageProvider.Decimal

def roundHalfEven (numerator denominator : Nat) : Nat :=
  let below := numerator / denominator
  let twice := 2 * (numerator % denominator)
  if twice < denominator then below
  else if denominator < twice then below + 1
  else if below % 2 = 0 then below
  else below + 1

end PackageProvider.Decimal
