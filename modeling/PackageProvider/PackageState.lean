import PackageProvider.Build
import PackageProvider.Ensure

set_option autoImplicit false

/-! The state of a package name, the states captured before anything is changed, and the
changes that are reported in the end. -/

namespace PackageProvider

inductive PackageState where
  | absent
  | installed (evr : String)
  deriving DecidableEq, Repr, Inhabited

namespace PackageState

def ofBuild (build : Build) : PackageState := .installed build.evr

def isAbsent : PackageState → Bool
  | absent => true
  | installed _ => false

def text : PackageState → String
  | absent => "absent"
  | installed evr => evr

instance : ToString PackageState := ⟨text⟩

end PackageState

structure DesiredItem where
  name : String
  ensure : Ensure
  deriving DecidableEq, Repr, Inhabited

structure Baseline where
  states : List (String × PackageState) := []
  deriving DecidableEq, Repr, Inhabited

namespace Baseline

def get? (baseline : Baseline) (name : String) : Option PackageState :=
  (baseline.states.find? fun pair => pair.1 == name).map (·.2)

def get (baseline : Baseline) (name : String) : PackageState :=
  (baseline.get? name).getD .absent

/-- Records the state of a name unless it has one. -/
def record (baseline : Baseline) (name : String) (state : PackageState) : Baseline :=
  if (baseline.get? name).isSome then baseline
  else { states := baseline.states ++ [(name, state)] }

def size (baseline : Baseline) : Nat := baseline.states.length

end Baseline

structure Change where
  name : String
  was : PackageState
  now : PackageState
  deriving DecidableEq, Repr, Inhabited

end PackageProvider
