import PackageProvider.Text.Blank

set_option autoImplicit false

/-! The state that a request wants a package to be in. -/

namespace PackageProvider

inductive Ensure where
  | present
  | absent
  /-- Kept at its build, which no engine here can do. -/
  | held
  | latest
  | version (text : String)
  deriving DecidableEq, Repr, Inhabited

namespace Ensure

/-- Words for states stand for themselves; any other text is a version, unless it is blank. -/
def ofString? (text : String) : Option Ensure :=
  if text = "present" ∨ text = "installed" then some .present
  else if text = "absent" ∨ text = "purged" then some .absent
  else if text = "held" then some .held
  else if text = "latest" then some .latest
  else if Text.allBlank text.toList then none
  else some (.version text)

def text : Ensure → String
  | present => "present"
  | absent => "absent"
  | held => "held"
  | latest => "latest"
  | version text => text

instance : ToString Ensure := ⟨text⟩

def isSupported (ensure : Ensure) : Bool := ensure != .held

end Ensure

end PackageProvider
