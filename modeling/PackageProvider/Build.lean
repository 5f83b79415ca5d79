import PackageProvider.Evr.Order

set_option autoImplicit false

/-! A build: one package name at one EVR for one architecture. Which specs name a build,
and which of several builds is the newest. -/

namespace PackageProvider

structure Build where
  name : String
  evr : String
  arch : String
  deriving DecidableEq, Repr, Inhabited

namespace Build

def parsedEvr (build : Build) : Evr := Evr.ofString build.evr

def nevra (build : Build) : String := build.name ++ "-" ++ build.evr ++ "." ++ build.arch

instance : ToString Build := ⟨nevra⟩

/-- The specs that name a build: its name alone, or its name, a dash and its version, its
version and release, its EVR as written, or its EVR and architecture. -/
def specs (build : Build) : List String :=
  let evr := build.parsedEvr
  [build.name,
    build.name ++ "-" ++ String.ofList evr.version,
    build.name ++ "-" ++ String.ofList evr.versionRelease,
    build.name ++ "-" ++ build.evr,
    build.nevra]

def isNamedBy (build : Build) (spec : String) : Bool := build.specs.contains spec

/-- The newer of two builds; of builds that the order does not tell apart, the second. -/
def newer (first second : Build) : Build :=
  if first.parsedEvr.newer second.parsedEvr then first else second

/-- A newest build of a list, the last one of those that are. -/
def newest? : List Build → Option Build
  | [] => none
  | build :: rest => some (rest.foldl newer build)

theorem foldl_newer_mem (rest : List Build) (build : Build) :
    rest.foldl newer build = build ∨ rest.foldl newer build ∈ rest := by
  induction rest generalizing build with
  | nil => exact .inl rfl
  | cons next rest ih =>
      rw [List.foldl_cons]
      rcases ih (newer build next) with same | later
      · rw [same]
        unfold newer
        split
        · exact .inl rfl
        · exact .inr List.mem_cons_self
      · exact .inr (List.mem_cons_of_mem next later)

theorem mem_of_newest? {builds : List Build} {build : Build}
    (chosen : newest? builds = some build) : build ∈ builds := by
  cases builds with
  | nil => cases chosen
  | cons first rest =>
      injection chosen with same
      rcases foldl_newer_mem rest first with kept | later
      · rw [kept] at same
        exact same ▸ List.mem_cons_self
      · exact List.mem_cons_of_mem first (same ▸ later)

end Build

end PackageProvider
