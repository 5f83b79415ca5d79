import PackageProvider.Proofs.Memory.State

set_option autoImplicit false

/-! What a directive selects, and for which reason. -/

namespace PackageProvider.Memory.Database

variable {database : Database} {spec : String} {selection : Selection}

theorem isNamedBy_name (build : Build) : build.isNamedBy build.name = true := by
  simp [Build.isNamedBy, Build.specs]

theorem mem_of_newestAvailable? {test : Build → Bool} {best : Build}
    (found : database.newestAvailable? test = some best) :
    best ∈ database.available ∧ test best = true :=
  List.mem_filter.mp (Build.mem_of_newest? found)

theorem not_exceeds_newestAvailable? {test : Build → Bool} {best build : Build}
    (found : database.newestAvailable? test = some best) (offered : build ∈ database.available)
    (passes : test build = true) : ¬ build.Exceeds best :=
  Build.not_exceeds_newest? found (List.mem_filter.mpr ⟨offered, passes⟩)

theorem newestAvailable?_eq_none_iff {test : Build → Bool} :
    database.newestAvailable? test = none ↔ ∀ build ∈ database.available, test build = false := by
  rw [newestAvailable?, Build.newest?_eq_none_iff, List.filter_eq_nil_iff]
  simp only [Bool.not_eq_true]

/-- An installation finds a newest build that its spec names, and selects it unless the spec
names an installed build of that name as well. -/
theorem selectInstall_cases (selected : database.selectInstall spec = .ok selection) :
    ∃ best, database.newestAvailable? (fun build => build.isNamedBy spec) = some best ∧
      (selection = .install best ∨
        selection = .nothing (spec ++ " is already installed") ∧
          ∃ build ∈ database.installedNamed best.name, build.isNamedBy spec = true) := by
  unfold selectInstall at selected
  cases found : database.newestAvailable? fun build => build.isNamedBy spec with
  | none =>
      rw [found] at selected
      cases selected
  | some best =>
      rw [found] at selected
      refine ⟨best, rfl, ?_⟩
      by_cases satisfied : ((database.installedNamed best.name).any fun build =>
          spec == build.name || (build.arch == best.arch && build.evr == best.evr)) = true
      · simp only [satisfied, if_true, Except.ok.injEq] at selected
        obtain ⟨build, member, reason⟩ := List.any_eq_true.mp satisfied
        refine .inr ⟨selected.symm, build, member, ?_⟩
        simp only [Bool.or_eq_true, Bool.and_eq_true, beq_iff_eq] at reason
        rcases reason with sameName | ⟨sameArch, sameEvr⟩
        · rw [sameName]
          exact isNamedBy_name build
        · have same : build = best := by
            cases build
            cases best
            simp_all [mem_installedNamed]
          rw [same]
          exact (mem_of_newestAvailable? found).2
      · simp only [satisfied, Bool.false_eq_true, if_false, Except.ok.injEq] at selected
        exact .inl selected.symm

/-- An upgrade compares with a newest installed build of the name that its spec is about,
and selects a newest build that the spec names among those that exceed it, if any does. -/
theorem selectUpgrade_cases (selected : database.selectUpgrade spec = .ok selection) :
    ∃ name current, database.specName? spec = some name ∧
      Build.newest? (database.installedNamed name) = some current ∧
      ((∃ best, selection = .install best ∧ best.isNamedBy spec = true ∧
          best ∈ database.available ∧ best.Exceeds current ∧
          ∀ build ∈ database.available, build.isNamedBy spec = true → ¬ build.Exceeds best) ∨
        selection = .nothing ("No upgrade available for " ++ spec) ∧
          ∀ build ∈ database.available, build.isNamedBy spec = true →
            ¬ build.Exceeds current) := by
  unfold selectUpgrade at selected
  cases about : database.specName? spec with
  | none =>
      rw [about] at selected
      cases selected
  | some name =>
      cases newest : Build.newest? (database.installedNamed name) with
      | none =>
          simp only [about, newest] at selected
          cases selected
      | some current =>
          refine ⟨name, current, rfl, newest, ?_⟩
          simp only [about, newest] at selected
          cases found : database.newestAvailable? fun build =>
              build.isNamedBy spec && build.parsedEvr.newer current.parsedEvr with
          | none =>
              rw [found] at selected
              cases selected
              refine .inr ⟨rfl, fun build offered named exceeds => ?_⟩
              have fails := newestAvailable?_eq_none_iff.mp found build offered
              rw [named, Bool.true_and] at fails
              exact Build.not_exceeds_iff.mpr fails exceeds
          | some best =>
              rw [found] at selected
              cases selected
              obtain ⟨offered, passes⟩ := mem_of_newestAvailable? found
              obtain ⟨named, exceeds⟩ := (Bool.and_eq_true _ _).mp passes
              refine .inl ⟨best, rfl, named, offered, exceeds, ?_⟩
              intro build buildOffered buildNamed higher
              have passes : (build.isNamedBy spec &&
                  build.parsedEvr.newer current.parsedEvr) = true := by
                rw [buildNamed, Bool.true_and]
                exact Evr.newer_trans higher exceeds
              exact not_exceeds_newestAvailable? found buildOffered passes higher

theorem selectRemove_cases (selected : database.selectRemove spec = .ok selection) :
    selection = .remove (database.installed.filter fun build => build.isNamedBy spec) ∧
      ∃ build ∈ database.installed, build.isNamedBy spec = true := by
  unfold selectRemove at selected
  cases named : database.installed.filter fun build => build.isNamedBy spec with
  | nil =>
      rw [named] at selected
      cases selected
  | cons victim rest =>
      rw [named] at selected
      cases selected
      have member : victim ∈ database.installed.filter fun build => build.isNamedBy spec := by
        rw [named]
        exact List.mem_cons_self
      exact ⟨rfl, victim, List.mem_filter.mp member⟩

theorem verb_of_select_remove {directive : Directive} {victims : List Build}
    (selected : database.select directive = .ok (.remove victims)) : directive.verb = .remove := by
  obtain ⟨verb, spec⟩ := directive
  cases verb with
  | install =>
      obtain ⟨best, -, other | ⟨other, -⟩⟩ := selectInstall_cases selected
      · cases other
      · cases other
  | remove => rfl
  | upgrade =>
      obtain ⟨name, current, -, -, ⟨best, other, -⟩ | ⟨other, -⟩⟩ := selectUpgrade_cases selected
      · cases other
      · cases other

theorem specName?_eq_some {name : String} (about : database.specName? spec = some name) :
    ∃ build ∈ database.available ++ database.installed,
      build.isNamedBy spec = true ∧ build.name = name := by
  obtain ⟨build, found, sameName⟩ := Option.map_eq_some_iff.mp about
  have named := @List.find?_some _ (fun build : Build => build.isNamedBy spec) _ _ found
  exact ⟨build, List.mem_of_find?_eq_some found, named, sameName⟩

theorem specName?_isSome {build : Build}
    (known : build ∈ database.available ++ database.installed)
    (named : build.isNamedBy spec = true) : ∃ name, database.specName? spec = some name := by
  cases about : database.specName? spec with
  | some name => exact ⟨name, rfl⟩
  | none =>
      have unnamed := List.find?_eq_none.mp (Option.map_eq_none_iff.mp about) build known
      exact (unnamed named).elim

theorem best_of_select {directive : Directive} {build : Build}
    (selected : database.select directive = .ok (.install build)) :
    build ∈ database.available ∧ build.isNamedBy directive.spec = true ∧
      ∀ other ∈ database.available, other.isNamedBy directive.spec = true →
        ¬ other.Exceeds build := by
  obtain ⟨verb, spec⟩ := directive
  cases verb with
  | install =>
      obtain ⟨best, found, same | ⟨different, -⟩⟩ := selectInstall_cases selected
      · cases same
        obtain ⟨offered, named⟩ := mem_of_newestAvailable? found
        exact ⟨offered, named, fun other => not_exceeds_newestAvailable? found⟩
      · cases different
  | remove =>
      obtain ⟨different, -⟩ := selectRemove_cases selected
      cases different
  | upgrade =>
      obtain ⟨name, current, -, -, ⟨best, same, named, offered, -, highest⟩ | ⟨different, -⟩⟩ :=
        selectUpgrade_cases selected
      · cases same
        exact ⟨offered, named, highest⟩
      · cases different

end PackageProvider.Memory.Database
