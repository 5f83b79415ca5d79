import PackageProvider.Exchange
import PackageProvider.Json.Reader
import PackageProvider.PackageState

set_option autoImplicit false

/-! The requests that callers send: JSON objects, one for asking about packages and one for
wanting them in some state. -/

namespace PackageProvider

open Json (Shape)

inductive InputError where
  | notAnObject
  | notJson
  | malformed (error : Json.ShapeError)
  deriving Repr, Inhabited

def InputError.message : InputError → String
  | notAnObject => "input must be a dict"
  | notJson => "invalid JSON input"
  | malformed error => "malformed request: " ++ error.message

structure GetRequest where
  names : List String := []
  deriving DecidableEq, Repr, Inhabited

namespace GetRequest

def recordType : Json.Shape.RecordType := ⟨"GetRequest", 1⟩

def shape : Shape GetRequest := fun value => do
  let namesField : Json.Shape.Field (List String) :=
    ⟨"names", Json.Shape.list Json.Shape.string, some []⟩
  let fields ← Json.Shape.openRecord recordType [namesField.check] value
  let names ← fields.get recordType 0 namesField
  fields.requireNoMore recordType
  return { names }

end GetRequest

/-- Wants the items in their states, or only to be told what that would change. -/
structure SetRequest where
  items : List DesiredItem
  noop : Bool := false
  deriving DecidableEq, Repr, Inhabited

namespace SetRequest

def shouldType : Json.Shape.RecordType := ⟨"Should", 1⟩

def shouldShape : Shape Ensure := fun value => do
  let ensureField : Json.Shape.Field Ensure := ⟨"ensure", Ensure.shape, none⟩
  let fields ← Json.Shape.openRecord shouldType [ensureField.check] value
  let ensure ← fields.get shouldType 0 ensureField
  fields.requireNoMore shouldType
  return ensure

def updateType : Json.Shape.RecordType := ⟨"Update", 2⟩

def updateShape : Shape DesiredItem := fun value => do
  let nameField : Json.Shape.Field String := ⟨"name", Json.Shape.string, none⟩
  let shouldField : Json.Shape.Field Ensure := ⟨"should", shouldShape, none⟩
  let fields ← Json.Shape.openRecord updateType [nameField.check, shouldField.check] value
  let name ← fields.get updateType 0 nameField
  let ensure ← fields.get updateType 1 shouldField
  fields.requireNoMore updateType
  return { name, ensure }

def optionsType : Json.Shape.RecordType := ⟨"RalOptions", 1⟩

def noopShape : Shape Bool := fun value => do
  let noopField : Json.Shape.Field Bool := ⟨"noop", Json.Shape.bool, some false⟩
  let fields ← Json.Shape.openRecord optionsType [noopField.check] value
  let noop ← fields.get optionsType 0 noopField
  fields.requireNoMore optionsType
  return noop

def recordType : Json.Shape.RecordType := ⟨"SetRequest", 2⟩

def shape : Shape SetRequest := fun value => do
  let updatesField : Json.Shape.Field (List DesiredItem) :=
    ⟨"updates", Json.Shape.list updateShape, none⟩
  let noopField : Json.Shape.Field Bool := ⟨"ral", noopShape, some false⟩
  let fields ← Json.Shape.openRecord recordType [updatesField.check, noopField.check] value
  let items ← fields.get recordType 0 updatesField
  let noop ← fields.get recordType 1 noopField
  fields.requireNoMore recordType
  return { items, noop }

end SetRequest

def readRequest {Request : Type} (shape : Shape Request) (input : ByteArray) :
    Except InputError Request :=
  match (String.fromUTF8? input).bind fun text => Json.parse text.toList with
  | none => .error .notJson
  | some value =>
      match value with
      | .object entries =>
          match shape (.object entries) with
          | .ok request => .ok request
          | .error error => .error (.malformed error)
      | .null | .bool _ | .number _ | .string _ | .array _ => .error .notAnObject

end PackageProvider
