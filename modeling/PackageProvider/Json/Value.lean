import PackageProvider.Decimal.Layout

set_option autoImplicit false

/-! JSON values. The entries of an object are ordered by key and no key comes twice when a
text is read; a value that is to be written may have its entries in any order. -/

namespace PackageProvider.Json

/-- A number: a whole one, or a double where the text has a fraction or an exponent, is
minus zero, or is beyond 64 bits. -/
inductive Number where
  | whole (value : Int)
  | real (value : Float)
  deriving Repr, Inhabited

inductive Value where
  | null
  | bool (value : Bool)
  | number (value : Number)
  | string (text : String)
  | array (items : List Value)
  | object (entries : List (String × Value))
  deriving Repr, Inhabited

/-- Numbers are written with the fewest digits that read back; positionally from 10^-5 up
to 10^16, and always recognisable as doubles. -/
def realLayout : Decimal.Layout := { least := some (-5), most := some 15, wholePoint := true }

namespace Number

def text : Number → String
  | whole value => toString value
  | real value => realLayout.write value

end Number

namespace Value

def get? (value : Value) (key : String) : Option Value :=
  match value with
  | object entries => (entries.find? fun entry => entry.1 == key).map (·.2)
  | null | bool _ | number _ | string _ | array _ => none

end Value

def insertEntry (key : String) (value : Value) :
    List (String × Value) → List (String × Value)
  | [] => [(key, value)]
  | entry :: rest =>
      if key < entry.1 then (key, value) :: entry :: rest
      else if key = entry.1 then (key, value) :: rest
      else entry :: insertEntry key value rest

end PackageProvider.Json
