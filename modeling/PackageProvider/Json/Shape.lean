import PackageProvider.Json.Value
import PackageProvider.Text.Quoted

set_option autoImplicit false

/-! Reading values of known shape out of JSON values.

A record is an object with an entry for each field, or an array of the fields in order.
The entries of an object are read in the order of their keys, so the first bad one by key
is reported, and only then the first field that is missing; entries with other keys are
passed over. An array may end early where only fields with a default are left. -/

namespace PackageProvider.Json

inductive ShapeError where
  | wrongType (found : Value) (expected : String)
  | wrongValue (found : Value) (expected : String)
  | wrongLength (length : Nat) (expected : String)
  | missingField (name : String)
  | unknownVariant (name : String) (known : List String)
  | refused (reason : String)
  deriving Repr, Inhabited

def Value.described : Value → String
  | .null => "null"
  | .bool value => "boolean " ++ "`" ++ (if value then "true" else "false") ++ "`"
  | .number (.whole value) => "integer " ++ "`" ++ toString value ++ "`"
  | .number (.real value) => "floating point " ++ "`" ++ realLayout.write value ++ "`"
  | .string text => "string " ++ Text.quoted text
  | .array _ => "sequence"
  | .object _ => "map"

namespace ShapeError

def message : ShapeError → String
  | wrongType found expected => "invalid type: " ++ found.described ++ ", expected " ++ expected
  | wrongValue found expected => "invalid value: " ++ found.described ++ ", expected " ++ expected
  | wrongLength length expected => "invalid length " ++ length.repr ++ ", expected " ++ expected
  | missingField name => "missing field `" ++ name ++ "`"
  | unknownVariant name known =>
      "unknown variant `" ++ name ++ "`, expected one of "
        ++ ", ".intercalate (known.map fun other => "`" ++ other ++ "`")
  | refused reason => reason

end ShapeError

abbrev Shape (Item : Type) := Value → Except ShapeError Item

namespace Shape

variable {Item : Type}

def string : Shape String
  | .string text => .ok text
  | other => .error (.wrongType other "a string")

def bool : Shape Bool
  | .bool value => .ok value
  | other => .error (.wrongType other "a boolean")

def below (bound : Nat) (expected : String) : Shape Nat
  | .number (.whole value) =>
      if 0 ≤ value ∧ value < bound then .ok value.toNat
      else .error (.wrongValue (.number (.whole value)) expected)
  | other => .error (.wrongType other expected)

/-- A number as a double. A whole number is rounded if it fits into 64 bits. -/
def real : Shape Float
  | .number (.real value) => .ok value
  | .number (.whole value) =>
      if -(Nat.pow 2 63 : Int) ≤ value ∧ value < UInt64.size then .ok (Float.ofInt value)
      else .error (.wrongType (.number (.whole value)) "f64")
  | other => .error (.wrongType other "f64")

def list (item : Shape Item) : Shape (List Item)
  | .array items => items.mapM item
  | other => .error (.wrongType other "a sequence")

def optional (item : Shape Item) : Shape (Option Item)
  | .null => .ok none
  | other => (item other).map some

/-- One of several words. A word may also be the key of an object with nothing but that
one entry, which is null. -/
def variant (known : List (String × Item)) : Shape Item := fun value =>
  let find (name : String) : Except ShapeError Item :=
    match known.find? fun pair => pair.1 == name with
    | some (_, item) => .ok item
    | none => .error (.unknownVariant name (known.map (·.1)))
  match value with
  | .string name => find name
  | .object [(name, content)] => do
      let item ← find name
      match content with
      | .null => return item
      | other => throw (.wrongType other "unit")
  | .object entries => .error (.wrongValue (.object entries) "map with a single key")
  | other => .error (.wrongType other "string or map")

structure Field (Item : Type) where
  name : String
  shape : Shape Item
  default? : Option Item

def Field.check (field : Field Item) : String × (Value → Except ShapeError Unit) :=
  (field.name, fun value => (field.shape value).map fun _ => ())

structure RecordType where
  name : String
  size : Nat

def RecordType.expected (type : RecordType) : String := "struct " ++ type.name

def RecordType.expectedSize (type : RecordType) : String :=
  type.expected ++ " with " ++ type.size.repr ++ (if type.size = 1 then " element" else " elements")

inductive Fields where
  | byName (entries : List (String × Value))
  | byPosition (items : List Value)
  deriving Repr, Inhabited

/-- Opens a record: checks the entries of an object in the order of their keys. -/
def openRecord (type : RecordType) (checks : List (String × (Value → Except ShapeError Unit))) :
    Shape Fields
  | .object entries => do
      entries.forM fun (key, value) =>
        match checks.find? fun check => check.1 == key with
        | some (_, check) => check value
        | none => .ok ()
      return .byName entries
  | .array items => .ok (.byPosition items)
  | other => .error (.wrongType other type.expected)

def Fields.get (fields : Fields) (type : RecordType) (position : Nat) (field : Field Item) :
    Except ShapeError Item :=
  match fields with
  | .byName entries =>
      match entries.find? fun entry => entry.1 == field.name, field.default? with
      | some (_, value), _ => field.shape value
      | none, some item => .ok item
      | none, none => .error (.missingField field.name)
  | .byPosition items =>
      match items[position]?, field.default? with
      | some value, _ => field.shape value
      | none, some item => .ok item
      | none, none => .error (.wrongLength position type.expectedSize)

def Fields.requireNoMore (fields : Fields) (type : RecordType) : Except ShapeError Unit :=
  match fields with
  | .byName _ => .ok ()
  | .byPosition items =>
      if type.size < items.length then .error (.wrongLength items.length "fewer elements in array")
      else .ok ()

end Shape

end PackageProvider.Json
