import Mathlib.Data.List.Basic
import PackageProvider.Memory.Resolution
import PackageProvider.Proofs.Plan

set_option autoImplicit false

/-! The state of a name in a database, and what a plan makes of items that meet it. -/

namespace PackageProvider.Memory

theorem hasName_iff {builds : List Build} {name : String} :
    hasName builds name = true ↔ ∃ build ∈ builds, build.name = name := by
  simp only [hasName, List.any_eq_true, beq_iff_eq]

theorem hasName_eq_false_iff {builds : List Build} {name : String} :
    hasName builds name = false ↔ ∀ build ∈ builds, build.name ≠ name := by
  simp only [hasName, List.any_eq_false, beq_iff_eq, ne_eq]

namespace Database

theorem hasInstalled_iff {database : Database} {name : String} :
    database.hasInstalled name = true ↔ ∃ build ∈ database.installed, build.name = name :=
  hasName_iff

theorem hasInstalled_eq_false_iff {database : Database} {name : String} :
    database.hasInstalled name = false ↔ ∀ build ∈ database.installed, build.name ≠ name :=
  hasName_eq_false_iff

theorem mem_installedNamed {database : Database} {name : String} {build : Build} :
    build ∈ database.installedNamed name ↔ build ∈ database.installed ∧ build.name = name := by
  simp only [installedNamed, List.mem_filter, beq_iff_eq]

theorem hasInstalled_of_mem {database : Database} {name : String} {build : Build}
    (member : build ∈ database.installedNamed name) : database.hasInstalled name = true :=
  hasInstalled_iff.mpr ⟨build, mem_installedNamed.mp member⟩

theorem not_mem_installedNamed {database : Database} {name : String} {build : Build}
    (missing : database.hasInstalled name = false) : build ∉ database.installedNamed name := by
  intro member
  rw [hasInstalled_of_mem member] at missing
  cases missing

theorem hasInstalled_congr {first second : Database} {name : String}
    (same : first.installedNamed name = second.installedNamed name) :
    first.hasInstalled name = second.hasInstalled name := by
  rw [Bool.eq_iff_iff, hasInstalled_iff, hasInstalled_iff]
  simp only [← mem_installedNamed, same]

/-- The state that a name is in: absent, or at the newest EVR over all architectures. -/
def stateOf (database : Database) (name : String) : PackageState :=
  Plan.stateIn (latestPerArch database.installed) name

theorem stateOf_eq (database : Database) (name : String) :
    database.stateOf name = Plan.stateIn (latestPerArch (database.installedNamed name)) name := by
  rw [stateOf, ← Plan.stateIn_filter, filter_latestPerArch]
  rfl

theorem stateOf_congr {first second : Database} {name : String}
    (same : first.installedNamed name = second.installedNamed name) :
    first.stateOf name = second.stateOf name := by
  rw [stateOf_eq, same, stateOf_eq]

theorem stateIn_named (database : Database) {names : List String} {name : String}
    (asked : name ∈ names) :
    Plan.stateIn (latestPerArch (named names database.installed)) name =
      database.stateOf name := by
  have restricted : (named names database.installed).filter (fun build => build.name == name) =
      database.installedNamed name := by
    rw [named, List.filter_filter, installedNamed]
    refine List.filter_congr fun build _ => ?_
    by_cases same : build.name = name
    · simp [same, asked]
    · simp [same]
  rw [← Plan.stateIn_filter, filter_latestPerArch, restricted, stateOf_eq]

/-- A name is absent, or it is in the state of an installed build of it that no installed
build of it exceeds. -/
theorem stateOf_cases (database : Database) (name : String) :
    (database.stateOf name = .absent ∧ database.hasInstalled name = false) ∨
      ∃ best ∈ database.installedNamed name, database.stateOf name = .ofBuild best ∧
        ∀ build ∈ database.installedNamed name, ¬ build.Exceeds best := by
  rcases Plan.stateIn_latestPerArch_cases database.installed name with
    ⟨absent, none⟩ | ⟨best, member, named, state, highest⟩
  · exact .inl ⟨absent, hasInstalled_eq_false_iff.mpr none⟩
  · refine .inr ⟨best, mem_installedNamed.mpr ⟨member, named⟩, state, fun build installed => ?_⟩
    obtain ⟨there, same⟩ := mem_installedNamed.mp installed
    exact highest build there same

theorem stateOf_eq_absent_iff {database : Database} {name : String} :
    database.stateOf name = .absent ↔ database.hasInstalled name = false := by
  rcases database.stateOf_cases name with ⟨absent, missing⟩ | ⟨best, member, state, -⟩
  · simp only [absent, missing]
  · have there := hasInstalled_of_mem member
    simp only [state, there, PackageState.ofBuild, reduceCtorEq]

theorem isAbsent_stateOf (database : Database) (name : String) :
    (database.stateOf name).isAbsent = !database.hasInstalled name := by
  rcases database.stateOf_cases name with ⟨absent, missing⟩ | ⟨best, member, state, -⟩
  · rw [absent, missing]
    rfl
  · rw [state, hasInstalled_of_mem member]
    rfl

/-! ### What is planned -/

def baseline (database : Database) (items : List DesiredItem) : Baseline :=
  Plan.baselineOf (latestPerArch (named (items.map DesiredItem.name) database.installed)) items

theorem get_baseline (database : Database) {items : List DesiredItem} {name : String}
    (asked : name ∈ items.map DesiredItem.name) :
    (database.baseline items).get name = database.stateOf name := by
  rw [baseline, Plan.get_baselineOf _ _ _ asked, database.stateIn_named asked]

def planned (database : Database) (items : List DesiredItem) : List Intent :=
  items.filterMap fun item => Plan.intent? item (database.stateOf item.name)

theorem map_intentsOf (database : Database) (items : List DesiredItem) :
    (Plan.intentsOf (database.baseline items) items).map (·.2) = database.planned items := by
  rw [Plan.intentsOf, List.map_filterMap, planned]
  refine List.filterMap_congr fun item member => ?_
  rw [database.get_baseline (List.mem_map_of_mem member), Option.map_map]
  simp only [Function.comp_def, Option.map_id']

def goal (database : Database) (items : List DesiredItem) : List Directive :=
  (database.planned items).map Intent.directive

/-- Each planned spec names only builds that carry the name of its item. -/
def IsPlain (database : Database) (items : List DesiredItem) : Prop :=
  ∀ intent ∈ database.planned items, ∀ build ∈ database.available ++ database.installed,
    build.isNamedBy intent.spec = true → build.name = intent.name

def InPlace (database : Database) (item : DesiredItem) : Prop :=
  database.hasInstalled item.name = (item.ensure != .absent)

end Database

end PackageProvider.Memory
