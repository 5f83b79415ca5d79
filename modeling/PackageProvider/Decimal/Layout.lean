import PackageProvider.Decimal.Rounding
import PackageProvider.Decimal.Shortest

set_option autoImplicit false

/-! Writing doubles: the layout of shortest digits, and a set number of decimal places. -/

namespace PackageProvider.Decimal

/-- The decisions of a number format. Numbers whose leading digit counts for less than
`10 ^ least` or for more than `10 ^ most` are written with an exponent, and `wholePoint`
says whether a whole number keeps a point and a zero. -/
structure Layout where
  least : Option Int
  most : Option Int
  wholePoint : Bool

def plainLayout : Layout := { least := none, most := none, wholePoint := false }

namespace Layout

def isPositional (layout : Layout) (leading : Int) : Bool :=
  (layout.least.all fun least => least ≤ leading) && (layout.most.all fun most => leading ≤ most)

def positional (layout : Layout) (digits : List Char) (point : Int) : List Char :=
  if point ≤ 0 then "0.".toList ++ List.replicate (-point).toNat '0' ++ digits
  else if point.toNat < digits.length then
    digits.take point.toNat ++ '.' :: digits.drop point.toNat
  else
    digits ++ List.replicate (point.toNat - digits.length) '0'
      ++ (if layout.wholePoint then ".0".toList else [])

def scientific (digits : List Char) (leading : Int) : List Char :=
  let mantissa := match digits with
    | first :: second :: rest => first :: '.' :: second :: rest
    | short => short
  mantissa ++ 'e' :: (if leading < 0 then '-' else '+') :: leading.natAbs.repr.toList

def ofDigits (layout : Layout) (decimal : Digits) : List Char :=
  let digits := decimal.digits.repr.toList
  let point := decimal.exponent + digits.length
  if layout.isPositional (point - 1) then layout.positional digits point
  else scientific digits (point - 1)

def write (layout : Layout) (x : Float) : String :=
  match read x with
  | .notANumber => "NaN"
  | .infinite negative => if negative then "-inf" else "inf"
  | .finite negative significand exponent =>
      let body :=
        if significand = 0 then (if layout.wholePoint then "0.0".toList else ['0'])
        else layout.ofDigits (shortest significand exponent)
      String.ofList (if negative then '-' :: body else body)

end Layout

/-- The text of a double with `places` decimal places, rounded from its exact value; a tie
goes to the even neighbour. -/
def fixed (places : Nat) (x : Float) : String :=
  match read x with
  | .notANumber => "NaN"
  | .infinite negative => if negative then "-inf" else "inf"
  | .finite negative significand exponent =>
      let (up, down) := powerQuotient 2 exponent
      let scaled := roundHalfEven (significand * up * Nat.pow 10 places) down
      let fraction := (scaled % Nat.pow 10 places).repr
      let padding := String.ofList (List.replicate (places - fraction.length) '0')
      let decimals := if places = 0 then "" else "." ++ padding ++ fraction
      let body := (scaled / Nat.pow 10 places).repr ++ decimals
      if negative then "-" ++ body else body

end PackageProvider.Decimal
