import PackageProvider.Ensure
import PackageProvider.Json.Shape
import PackageProvider.Transaction

set_option autoImplicit false

/-! How builds, directives, transactions and wanted states stand in JSON. -/

namespace PackageProvider

open Json (Shape Value)

namespace Build

def recordType : Json.Shape.RecordType := ⟨"PackageRecord", 3⟩

def shape : Shape Build := fun value => do
  let field (name : String) : Json.Shape.Field String := ⟨name, Json.Shape.string, none⟩
  let fields ← Json.Shape.openRecord recordType
    [(field "name").check, (field "evr").check, (field "arch").check] value
  let name ← fields.get recordType 0 (field "name")
  let evr ← fields.get recordType 1 (field "evr")
  let arch ← fields.get recordType 2 (field "arch")
  fields.requireNoMore recordType
  return { name, evr, arch }

def toJson (build : Build) : Value :=
  .object [("name", .string build.name), ("evr", .string build.evr), ("arch", .string build.arch)]

end Build

namespace Verb

def shape : Shape Verb := Json.Shape.variant (all.map fun verb => (verb.word, verb))

def toJson (verb : Verb) : Value := .string verb.word

end Verb

namespace Directive

def recordType : Json.Shape.RecordType := ⟨"GoalEntry", 2⟩

def shape : Shape Directive := fun value => do
  let verbField : Json.Shape.Field Verb := ⟨"action", Verb.shape, none⟩
  let specField : Json.Shape.Field String := ⟨"spec", Json.Shape.string, none⟩
  let fields ← Json.Shape.openRecord recordType [verbField.check, specField.check] value
  let verb ← fields.get recordType 0 verbField
  let spec ← fields.get recordType 1 specField
  fields.requireNoMore recordType
  return { verb, spec }

def toJson (directive : Directive) : Value :=
  .object [("action", directive.verb.toJson), ("spec", .string directive.spec)]

end Directive

namespace Transaction

def recordType : Json.Shape.RecordType := ⟨"ResolvedTransaction", 2⟩

def shape : Shape Transaction := fun value => do
  let field (name : String) : Json.Shape.Field (List Build) :=
    ⟨name, Json.Shape.list Build.shape, none⟩
  let fields ← Json.Shape.openRecord recordType
    [(field "install_set").check, (field "remove_set").check] value
  let installs ← fields.get recordType 0 (field "install_set")
  let removals ← fields.get recordType 1 (field "remove_set")
  fields.requireNoMore recordType
  return { installs, removals }

def toJson (transaction : Transaction) : Value :=
  .object
    [("install_set", .array (transaction.installs.map Build.toJson)),
      ("remove_set", .array (transaction.removals.map Build.toJson))]

end Transaction

namespace Ensure

def refusal (text : String) : String := "invalid ensure value: " ++ Text.quoted text

def shape : Shape Ensure := fun value => do
  let text ← Json.Shape.string value
  match ofString? text with
  | some ensure => return ensure
  | none => throw (.refused (refusal text))

def toJson (ensure : Ensure) : Value := .string ensure.text

end Ensure

end PackageProvider
