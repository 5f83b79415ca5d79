set_option autoImplicit false

/-! The document that tells callers what the provider can do. -/

namespace PackageProvider

def capabilityLines : List String :=
  ["---",
    "provider:",
    "  type: package",
    "  invoke: json",
    "  actions: [set, get]",
    "  suitable:",
    "    commands: [dnf]",
    "  attributes:",
    "    name:",
    "      desc: the name of the package",
    "    ensure:",
    "      desc: what state the package should be in",
    "      # one of present, installed, absent, purged, held, latest,",
    "      # or a version string",
    "      type: string",
    "    platform:",
    "      desc: the platform (architecture) for which the package was built",
    "      kind: r"]

def capabilities : String := String.join (capabilityLines.map fun line => line ++ "\n")

end PackageProvider
