import PackageProvider.Json.Writer
import PackageProvider.Observation
import PackageProvider.PackageState

set_option autoImplicit false

/-! The envelopes that callers get back: one line of JSON each. -/

namespace PackageProvider

open Json (Value)

/-- A package as it is reported. Only what is installed has a platform. -/
structure Resource where
  name : String
  ensure : String
  platform : Option String
  deriving DecidableEq, Repr, Inhabited

namespace Resource

def ofBuild (build : Build) : Resource := ⟨build.name, build.evr, some build.arch⟩

def ofAbsent (name : String) : Resource := ⟨name, PackageState.absent.text, none⟩

def toJson (resource : Resource) : Value :=
  let platform := match resource.platform with
    | some platform => [("platform", Value.string platform)]
    | none => []
  .object ([("name", .string resource.name), ("ensure", .string resource.ensure)] ++ platform)

end Resource

def Change.toJson (change : Change) : Value :=
  .object
    [("name", .string change.name),
      ("ensure", .object [("is", .string change.now.text), ("was", .string change.was.text)])]

inductive Response where
  | resources (resources : List Resource)
  /-- What was changed, and whether the caller has to derive the changes on its own. -/
  | report (changes : List Change) (derive : Bool)
  | failure (message : String)
  deriving DecidableEq, Repr, Inhabited

namespace Response

def ofInventory (inventory : Inventory) : Response :=
  .resources (inventory.present.map .ofBuild ++ inventory.absent.map .ofAbsent)

def changes (made : List Change) : Response := .report made false

def toJson : Response → Value
  | .resources found => .object [("resources", .array (found.map Resource.toJson))]
  | .report made derive =>
      .object [("changes", .array (made.map Change.toJson)), ("derive", .bool derive)]
  | .failure message =>
      .object
        [("error", .object [("message", .string message), ("kind", .string "failed")])]

def line (response : Response) : String := String.ofList (response.toJson.write ++ ['\n'])

end Response

end PackageProvider
