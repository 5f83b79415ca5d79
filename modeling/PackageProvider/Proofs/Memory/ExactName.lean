import PackageProvider.Proofs.Memory.Selection
import PackageProvider.Proofs.Spelling

set_option autoImplicit false

/-! A spec that is the name of a package means that package, unless it also spells the name
and version of a build of another one. A spec without a dash cannot do that; one with a dash
can, and then builds of both packages are looked at together. -/

namespace PackageProvider.Memory

/-- The builds that a directive selects itself, without what they require and without what
requires them. -/
def Selection.builds : Selection → List Build
  | install build => [build]
  | remove builds => builds
  | nothing _ => []

namespace Database

variable {database : Database} {directive : Directive} {spec : String} {selection : Selection}
  {build : Build}

def SpellsVersion (database : Database) (spec : String) : Prop :=
  ∃ build ∈ database.available ++ database.installed, ∃ version ∈ build.versions,
    build.name ++ "-" ++ version = spec

instance (database : Database) (spec : String) : Decidable (database.SpellsVersion spec) :=
  inferInstanceAs (Decidable (∃ build ∈ database.available ++ database.installed,
    ∃ version ∈ build.versions, build.name ++ "-" ++ version = spec))

theorem not_spellsVersion_of_no_dash (plain : '-' ∉ spec.toList) :
    ¬ database.SpellsVersion spec := by
  rintro ⟨build, -, version, -, spelled⟩
  rw [← spelled, String.toList_append, String.toList_append] at plain
  exact plain (List.mem_append_left _ (List.mem_append_right _ List.mem_cons_self))

theorem name_of_isNamedBy (unspelled : ¬ database.SpellsVersion spec)
    (known : build ∈ database.available ++ database.installed)
    (named : build.isNamedBy spec = true) : build.name = spec := by
  refine (Build.isNamedBy_iff.mp named).resolve_right ?_
  rintro ⟨version, member, spelled⟩
  exact unspelled ⟨build, known, version, member, spelled⟩

theorem known_of_select (selected : database.select directive = .ok selection)
    (member : build ∈ selection.builds) :
    build ∈ database.available ++ database.installed ∧
      build.isNamedBy directive.spec = true := by
  cases selection with
  | install best =>
      obtain ⟨offered, named, -⟩ := best_of_select selected
      rw [List.mem_singleton.mp member]
      exact ⟨List.mem_append_left _ offered, named⟩
  | nothing remark => cases member
  | remove victims =>
      obtain ⟨verb, spec⟩ := directive
      cases verb_of_select_remove selected
      obtain ⟨same, -⟩ := selectRemove_cases selected
      cases same
      obtain ⟨there, named⟩ := List.mem_filter.mp member
      exact ⟨List.mem_append_right _ there, named⟩

theorem specName?_of_name (unspelled : ¬ database.SpellsVersion spec)
    (known : ∃ build ∈ database.available ++ database.installed, build.name = spec) :
    database.specName? spec = some spec := by
  obtain ⟨build, member, sameName⟩ := known
  have named : build.isNamedBy spec = true := sameName ▸ isNamedBy_name build
  obtain ⟨name, about⟩ := specName?_isSome member named
  obtain ⟨found, foundMember, foundNamed, foundName⟩ := specName?_eq_some about
  rw [about, ← foundName, name_of_isNamedBy unspelled foundMember foundNamed]

theorem select_remove_names_iff (selected : database.select ⟨.remove, spec⟩ = .ok selection) :
    (∀ build ∈ selection.builds, build.name = spec) ↔
      ∀ build ∈ database.installed, ∀ version ∈ build.versions,
        build.name ++ "-" ++ version ≠ spec := by
  obtain ⟨same, -⟩ := selectRemove_cases selected
  subst same
  simp only [Selection.builds, List.mem_filter, Build.isNamedBy_iff]
  constructor
  · intro carry build there version member spelled
    have sameName := carry build ⟨there, .inr ⟨version, member, spelled⟩⟩
    exact dashed_ne build.name version (spelled.trans sameName.symm)
  · rintro unspelled build ⟨there, sameName | ⟨version, member, spelled⟩⟩
    · exact sameName
    · exact (unspelled build there version member spelled).elim

/-- What is selected for installation is of the package of that name if that has a newer build
on offer than any that is spelled so. -/
theorem select_install_name
    (outdone : ∀ build ∈ database.available, ∀ version ∈ build.versions,
      build.name ++ "-" ++ version = spec →
        ∃ newer ∈ database.available, newer.name = spec ∧ newer.Exceeds build)
    (selected : database.select directive = .ok (.install build)) (asked : directive.spec = spec) :
    build.name = spec := by
  subst asked
  obtain ⟨offered, named, highest⟩ := best_of_select selected
  refine (Build.isNamedBy_iff.mp named).resolve_right ?_
  rintro ⟨version, member, spelled⟩
  obtain ⟨newer, newerOffered, newerName, exceeds⟩ := outdone build offered version member spelled
  exact highest newer newerOffered (newerName ▸ isNamedBy_name newer) exceeds

end Database

/-- What is selected, and what an upgrade compares with, carries the name that the spec is
unless the spec spells a version as well. For a removal it is the installed builds that count,
and one that is spelled so is always taken; for an installation it is those on offer, and a
newer build of the package itself comes before them. -/
theorem select_exact_name (database : Database) (spec : String)
    (known : ∃ build ∈ database.available ++ database.installed, build.name = spec) :
    (¬ database.SpellsVersion spec →
      database.specName? spec = some spec ∧
        ∀ verb selection, database.select ⟨verb, spec⟩ = .ok selection →
          ∀ build ∈ selection.builds, build.name = spec) ∧
    (∀ selection, database.select ⟨.remove, spec⟩ = .ok selection →
      ((∀ build ∈ selection.builds, build.name = spec) ↔
        ∀ build ∈ database.installed, ∀ version ∈ build.versions,
          build.name ++ "-" ++ version ≠ spec)) ∧
    ((∀ build ∈ database.available, ∀ version ∈ build.versions,
        build.name ++ "-" ++ version = spec →
          ∃ newer ∈ database.available, newer.name = spec ∧ newer.Exceeds build) →
      ∀ verb build, database.select ⟨verb, spec⟩ = .ok (.install build) → build.name = spec) ∧
    ('-' ∉ spec.toList → ¬ database.SpellsVersion spec) := by
  refine ⟨fun unspelled => ⟨Database.specName?_of_name unspelled known, ?_⟩,
    fun _ => Database.select_remove_names_iff,
    fun outdone _ _ selected => Database.select_install_name outdone selected rfl,
    Database.not_spellsVersion_of_no_dash⟩
  intro verb selection selected build member
  obtain ⟨there, named⟩ := Database.known_of_select selected member
  exact Database.name_of_isNamedBy unspelled there named

def gitReleases : Database where
  installed := [⟨"git", "2-1", "x86_64"⟩, ⟨"git-2", "1.0-1", "x86_64"⟩,
    ⟨"git-lfs", "3.4-1", "x86_64"⟩]
  available := [⟨"git", "2-1", "x86_64"⟩, ⟨"git-2", "1.0-1", "x86_64"⟩,
    ⟨"git", "2-3", "x86_64"⟩, ⟨"git-lfs", "3.4-1", "x86_64"⟩, ⟨"git-lfs", "3.5-1", "x86_64"⟩]

theorem gitReleases_select_exact_name :
    (∃ build ∈ gitReleases.available ++ gitReleases.installed, build.name = "git-lfs") ∧
      gitReleases.specName? "git-lfs" = some "git-lfs" ∧
      ∃ selection, gitReleases.select ⟨.upgrade, "git-lfs"⟩ = .ok selection ∧
        selection.builds ≠ [] ∧ ∀ build ∈ selection.builds, build.name = "git-lfs" := by
  have known : ∃ build ∈ gitReleases.available ++ gitReleases.installed,
      build.name = "git-lfs" := by
    decide
  have unspelled : ¬ gitReleases.SpellsVersion "git-lfs" := by decide
  obtain ⟨about, carry⟩ := (select_exact_name gitReleases "git-lfs" known).1 unspelled
  have selected : gitReleases.select ⟨.upgrade, "git-lfs"⟩ =
      .ok (.install ⟨"git-lfs", "3.5-1", "x86_64"⟩) := by
    decide +kernel
  exact ⟨known, about, _, selected, List.cons_ne_nil _ _, carry .upgrade _ selected⟩

/-- For no verb does a name always mean its package alone, and an upgrade may compare with what
is installed of another package. -/
theorem select_not_exact_name :
    (¬ ∃ verb, ∀ (database : Database) (spec : String) (selection : Selection),
      (∃ build ∈ database.available ++ database.installed, build.name = spec) →
        database.select ⟨verb, spec⟩ = .ok selection →
          ∀ build ∈ selection.builds, build.name = spec) ∧
    ¬ ∀ (database : Database) (spec : String),
      (∃ build ∈ database.available ++ database.installed, build.name = spec) →
        database.specName? spec = some spec := by
  have known : ∃ build ∈ gitReleases.available ++ gitReleases.installed,
      build.name = "git-2" := by
    decide
  constructor
  · rintro ⟨verb, always⟩
    have keeps (selection : Selection)
        (selected : gitReleases.select ⟨verb, "git-2"⟩ = .ok selection) :
        ∀ build ∈ selection.builds, build.name = "git-2" :=
      always gitReleases "git-2" selection known selected
    cases verb with
    | install =>
        have carries := keeps (.install ⟨"git", "2-3", "x86_64"⟩) (by decide +kernel)
        revert carries
        decide
    | upgrade =>
        have carries := keeps (.install ⟨"git", "2-3", "x86_64"⟩) (by decide +kernel)
        revert carries
        decide
    | remove =>
        have carries := keeps
          (.remove [⟨"git", "2-1", "x86_64"⟩, ⟨"git-2", "1.0-1", "x86_64"⟩]) (by decide +kernel)
        revert carries
        decide
  · intro always
    have about := always gitReleases "git-2" known
    revert about
    decide

end PackageProvider.Memory
