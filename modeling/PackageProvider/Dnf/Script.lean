import PackageProvider.Transaction

set_option autoImplicit false

/-! The script that hands a goal to dnf's shell. -/

namespace PackageProvider.Dnf

/-- One line for each directive, its verb and its spec, and then the line that runs them. -/
def script (goal : List Directive) : String :=
  String.join (goal.map fun directive => toString directive ++ "\n") ++ "run\n"

end PackageProvider.Dnf
