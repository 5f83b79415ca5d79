import Mathlib.Data.List.Nodup
import PackageProvider.Proofs.Memory.Accounts

set_option autoImplicit false

/-! What is installed after a transaction is applied, and the states of names then. -/

namespace PackageProvider.Memory

def sharesPlace (first second : Build) : Bool :=
  first.name == second.name && first.arch == second.arch

theorem foldl_remove (removals installed : List Build) :
    removals.foldl (fun installed removed => installed.filter fun build => build != removed)
        installed =
      installed.filter fun build => !removals.contains build := by
  induction removals generalizing installed with
  | nil => simp
  | cons removed rest ih =>
      rw [List.foldl_cons, ih, List.filter_filter]
      refine List.filter_congr fun build _ => ?_
      rw [List.contains_cons, Bool.not_or, Bool.and_comm]
      rfl

theorem foldl_install (installs installed : List Build)
    (distinct : (installs.map Build.name).Nodup) :
    installs.foldl
        (fun installed added =>
          (installed.filter fun build => !(build.name == added.name && build.arch == added.arch))
            ++ [added])
        installed =
      (installed.filter fun build => !installs.any (sharesPlace build)) ++ installs := by
  induction installs generalizing installed with
  | nil => simp
  | cons added rest ih =>
      obtain ⟨fresh, restDistinct⟩ := List.nodup_cons.mp distinct
      have stays : [added].filter (fun build => !rest.any (sharesPlace build)) = [added] := by
        rw [List.filter_eq_self]
        intro build single
        rw [List.mem_singleton.mp single, Bool.not_eq_true', List.any_eq_false]
        intro other member shares
        have sameName : added.name = other.name := by
          simpa using ((Bool.and_eq_true _ _).mp shares).1
        exact fresh (sameName ▸ List.mem_map_of_mem member)
      rw [List.foldl_cons, ih _ restDistinct, List.filter_append, List.filter_filter, stays,
        List.append_assoc, List.singleton_append]
      congr 1
      refine List.filter_congr fun build _ => ?_
      rw [List.any_cons, Bool.not_or, Bool.and_comm]
      rfl

namespace Database

variable {database : Database} {transaction : Transaction} {name : String}

theorem applied_installed (database : Database)
    (distinct : (transaction.installs.map Build.name).Nodup) :
    (database.applied transaction).installed =
      (database.installed.filter fun build =>
        !transaction.installs.any (sharesPlace build) && !transaction.removals.contains build)
        ++ transaction.installs := by
  rw [applied, foldl_remove, foldl_install _ _ distinct, List.filter_filter]

theorem mem_applied_iff {build : Build} (distinct : (transaction.installs.map Build.name).Nodup) :
    build ∈ (database.applied transaction).installed ↔
      (build ∈ database.installed ∧ build ∉ transaction.removals ∧
          ∀ added ∈ transaction.installs, sharesPlace build added = false) ∨
        build ∈ transaction.installs := by
  rw [database.applied_installed distinct, List.mem_append, List.mem_filter]
  simp only [Bool.and_eq_true, Bool.not_eq_true', List.any_eq_false, List.contains_eq_mem,
    decide_eq_false_iff_not, Bool.not_eq_true]
  tauto

theorem installedNamed_applied (database : Database)
    (distinct : (transaction.installs.map Build.name).Nodup)
    (notInstalled : hasName transaction.installs name = false)
    (notRemoved : hasName transaction.removals name = false) :
    (database.applied transaction).installedNamed name = database.installedNamed name := by
  have others : transaction.installs.filter (fun build => build.name == name) = [] := by
    rw [List.filter_eq_nil_iff]
    intro build member
    simpa using hasName_eq_false_iff.mp notInstalled build member
  rw [installedNamed, database.applied_installed distinct, List.filter_append, others,
    List.append_nil, List.filter_filter, installedNamed]
  refine List.filter_congr fun build _ => ?_
  by_cases same : build.name = name
  · have free : transaction.installs.any (sharesPlace build) = false := by
      rw [List.any_eq_false]
      intro added member shares
      have sameName : build.name = added.name := by
        simpa using ((Bool.and_eq_true _ _).mp shares).1
      exact hasName_eq_false_iff.mp notInstalled added member (sameName.symm.trans same)
    have stays : transaction.removals.contains build = false := by
      rw [List.contains_eq_mem, decide_eq_false_iff_not]
      exact fun removed => hasName_eq_false_iff.mp notRemoved build removed same
    rw [free, stays, Bool.not_false, Bool.and_true, Bool.and_true]
  · simp [same]

theorem hasInstalled_applied_of_install (database : Database)
    (distinct : (transaction.installs.map Build.name).Nodup)
    (installs : hasName transaction.installs name = true) :
    (database.applied transaction).hasInstalled name = true := by
  obtain ⟨build, member, sameName⟩ := hasName_iff.mp installs
  exact hasInstalled_iff.mpr ⟨build, (mem_applied_iff distinct).mpr (.inr member), sameName⟩

theorem hasInstalled_applied_of_removed (database : Database)
    (distinct : (transaction.installs.map Build.name).Nodup)
    (notInstalled : hasName transaction.installs name = false)
    (removed : ∀ build ∈ database.installedNamed name, build ∈ transaction.removals) :
    (database.applied transaction).hasInstalled name = false := by
  refine hasInstalled_eq_false_iff.mpr fun build member sameName => ?_
  rcases (mem_applied_iff distinct).mp member with ⟨there, stays, -⟩ | added
  · exact stays (removed build (mem_installedNamed.mpr ⟨there, sameName⟩))
  · exact hasName_eq_false_iff.mp notInstalled build added sameName

/-- A build that exceeds the builds of its name gives the name its state. -/
theorem stateOf_applied_of_install (database : Database)
    (distinct : (transaction.installs.map Build.name).Nodup) {build : Build}
    (added : build ∈ transaction.installs)
    (exceeds : ∀ old ∈ database.installedNamed build.name, build.Exceeds old) :
    (database.applied transaction).stateOf build.name = .ofBuild build := by
  have there : build ∈ (database.applied transaction).installedNamed build.name :=
    mem_installedNamed.mpr ⟨(mem_applied_iff distinct).mpr (.inr added), rfl⟩
  rcases (database.applied transaction).stateOf_cases build.name with
    ⟨-, missing⟩ | ⟨best, member, state, highest⟩
  · exact (not_mem_installedNamed missing there).elim
  · obtain ⟨bestThere, bestName⟩ := mem_installedNamed.mp member
    rcases (mem_applied_iff distinct).mp bestThere with ⟨old, -, -⟩ | bestAdded
    · have higher := exceeds best (mem_installedNamed.mpr ⟨old, bestName⟩)
      exact (highest build there higher).elim
    · have same : best = build :=
        List.inj_on_of_nodup_map distinct bestAdded added bestName
      rw [state, same]

end Database

end PackageProvider.Memory
