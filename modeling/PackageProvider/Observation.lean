import PackageProvider.Engine
import PackageProvider.PackageState

set_option autoImplicit false

/-! What an engine reports, reduced to what matters: the newest build for each name and
architecture, and the names on offer that are not installed. -/

namespace PackageProvider

def placeLatest (build : Build) : List Build → List Build
  | [] => [build]
  | kept :: rest =>
      if kept.name == build.name && kept.arch == build.arch then
        (if build.parsedEvr.newer kept.parsedEvr then build else kept) :: rest
      else kept :: placeLatest build rest

/-- The newest build for each name and architecture, in the order in which these first
occur; of builds that the order does not tell apart, the first. -/
def latestPerArch (builds : List Build) : List Build :=
  builds.foldl (fun latest build => placeLatest build latest) []

structure Inventory where
  present : List Build := []
  absent : List String := []
  deriving DecidableEq, Repr, Inhabited

namespace Inventory

def size (inventory : Inventory) : Nat := inventory.present.length + inventory.absent.length

def isEmpty (inventory : Inventory) : Bool :=
  inventory.present.isEmpty && inventory.absent.isEmpty

def absentNames (present offered : List Build) : List String :=
  offered.foldl
    (fun names build =>
      if (present.any fun other => other.name == build.name) || names.contains build.name then names
      else names ++ [build.name])
    []

end Inventory

namespace Engine

variable {World Handle : Type}

def observe (engine : Engine World Handle) (names : List String) :
    Act (World × Handle) EngineError (List Build) := do
  let reported ← engine.installed names
  Act.note .debug ("Engine reported " ++ reported.length.repr ++ " installed builds")
  return latestPerArch reported

/-- Takes stock of these names. Without a name everything installed is listed and nothing
is absent. -/
def takeStock (engine : Engine World Handle) (names : List String) :
    Act (World × Handle) EngineError Inventory := do
  let present ← engine.observe names
  if names.isEmpty then return { present }
  else
    let offered ← engine.available names
    return { present, absent := Inventory.absentNames present offered }

def currentState (engine : Engine World Handle) (names : List String) :
    Act World EngineError Inventory :=
  engine.inSession id (engine.takeStock names)

end Engine

end PackageProvider
