import PackageProvider.Proofs.Convergence.Changes
import PackageProvider.Proofs.Memory.Removals

set_option autoImplicit false

/-! How often a name is reported. A transaction has one build of a name to install, but it
removes every build of a name, and each of them is reported for itself: a package that goes in
two architectures is reported twice, in the same words. -/

namespace PackageProvider.Memory

namespace Database

variable {database : Database} {goal : List Directive} {transaction : Transaction}

theorem resolution_builds_nodup (resolves : database.resolution goal = .ok transaction) :
    (transaction.installs ++ transaction.removals).Nodup := by
  have resolved := resolution_resolved resolves
  refine List.nodup_append.mpr
    ⟨resolved.distinct.of_map _, resolution_removals_nodup resolves, ?_⟩
  intro added comes removed goes same
  exact resolved.name_ne comes goes (congrArg Build.name same)

end Database

/-! ### The names of a report -/

variable {database : Database} {goal : List Directive} {transaction : Transaction}
  {requested : List String} {baseline : Baseline}

theorem map_name_report (transaction : Transaction) (requested : List String)
    (baseline : Baseline) :
    (report transaction requested baseline).map Change.name =
      ((transaction.installs ++ transaction.removals).filter fun build =>
        requested.contains build.name).map Build.name := by
  simp only [report, List.map_append, List.map_map, List.filter_append, Function.comp_def]

theorem report_names_nodup_iff (resolves : database.resolution goal = .ok transaction) :
    ((report transaction requested baseline).map Change.name).Nodup ↔
      ∀ first ∈ transaction.removals, ∀ second ∈ transaction.removals,
        first.name ∈ requested → first.name = second.name → first = second := by
  have resolved := Database.resolution_resolved resolves
  have distinct := (Database.resolution_builds_nodup resolves).filter fun build =>
    requested.contains build.name
  rw [map_name_report, List.nodup_map_iff_inj_on distinct]
  simp only [List.mem_filter, List.mem_append, List.contains_iff_mem]
  constructor
  · intro injective first goes second alsoGoes asked sameName
    exact injective first ⟨.inr goes, asked⟩ second ⟨.inr alsoGoes, sameName ▸ asked⟩ sameName
  · rintro single first ⟨comes | goes, asked⟩ second ⟨alsoComes | alsoGoes, -⟩ sameName
    · exact List.inj_on_of_nodup_map resolved.distinct comes alsoComes sameName
    · exact (resolved.name_ne comes alsoGoes sameName).elim
    · exact (resolved.name_ne alsoComes goes sameName.symm).elim
    · exact single first goes second alsoGoes asked sameName

theorem report_name_unique (resolved : Database.Resolved database goal transaction)
    {change other : Change} (reported : change ∈ report transaction requested baseline)
    (alsoReported : other ∈ report transaction requested baseline)
    (sameName : change.name = other.name) : change = other := by
  rcases mem_report_iff.mp reported with ⟨first, comes, -, rfl⟩ | ⟨first, goes, -, rfl⟩ <;>
    rcases mem_report_iff.mp alsoReported with
      ⟨second, alsoComes, -, rfl⟩ | ⟨second, alsoGoes, -, rfl⟩
  · rw [List.inj_on_of_nodup_map resolved.distinct comes alsoComes sameName]
  · exact (resolved.name_ne comes alsoGoes sameName).elim
  · exact (resolved.name_ne alsoComes goes sameName.symm).elim
  · rw [show first.name = second.name from sameName]

/-- The records of a run that succeeds differ in their names just if no requested name loses two
builds, which none can that has only one installed. Records of one name are always equal. -/
theorem converge_names_nodup_iff (database : Database) (journal : List JournalEntry)
    (items : List DesiredItem) (options : RunOptions) {changes : List Change}
    {after : Journaled Database}
    (run : engine.converge items options ⟨database, journal⟩ = .ok changes after) :
    ∃ transaction, database.resolution (database.goal items) = .ok transaction ∧
      ((changes.map Change.name).Nodup ↔
        ∀ first ∈ transaction.removals, ∀ second ∈ transaction.removals,
          first.name ∈ items.map DesiredItem.name → first.name = second.name →
            first = second) ∧
      ((∀ name ∈ items.map DesiredItem.name, ∀ first ∈ database.installedNamed name,
          ∀ second ∈ database.installedNamed name, first = second) →
        (changes.map Change.name).Nodup) ∧
      ∀ change ∈ changes, ∀ other ∈ changes, change.name = other.name → change = other := by
  have ended := Act.Ensures.of_ok (converge_ensures items options) run
  cases ended with
  | @done transaction _ _ resolves _ =>
      have resolved := Database.resolution_resolved resolves
      refine ⟨transaction, resolves, report_names_nodup_iff resolves, fun single => ?_,
        fun change reported other alsoReported =>
          report_name_unique resolved reported alsoReported⟩
      rw [report_names_nodup_iff resolves]
      intro first goes second alsoGoes asked sameName
      refine single first.name asked first ?_ second ?_
      · exact Database.mem_installedNamed.mpr ⟨resolved.removed_installed first goes, rfl⟩
      · exact Database.mem_installedNamed.mpr
          ⟨resolved.removed_installed second alsoGoes, sameName.symm⟩

def glibcPair : Database where
  installed := [⟨"glibc", "2.39-1", "x86_64"⟩, ⟨"glibc", "2.39-1", "i686"⟩,
    ⟨"jq", "1.7-1", "x86_64"⟩]
  available := [⟨"curl", "8.5-1", "x86_64"⟩]

theorem glibcPair_calm : ¬ glibcPair.IsArmed := Database.calm_of_no_rules rfl

theorem glibcPair_names_nodup :
    ∃ changes after,
      engine.converge [⟨"curl", .present⟩, ⟨"jq", .absent⟩] {} ⟨glibcPair, []⟩ =
          .ok changes after ∧
        changes.map Change.name = ["curl", "jq"] ∧ (changes.map Change.name).Nodup := by
  have resolves : glibcPair.resolution
      (glibcPair.goal [⟨"curl", .present⟩, ⟨"jq", .absent⟩]) =
        .ok ⟨[⟨"curl", "8.5-1", "x86_64"⟩], [⟨"jq", "1.7-1", "x86_64"⟩]⟩ := by
    cbv
  obtain ⟨after, run, -⟩ := converge_resolved [] {} glibcPair_calm (by decide) resolves
  obtain ⟨transaction, alsoResolves, distinct, -⟩ :=
    converge_names_nodup_iff glibcPair [] _ {} run
  rw [resolves] at alsoResolves
  cases alsoResolves
  exact ⟨_, after, run, rfl, distinct.mpr (by decide)⟩

/-- Where the library is to go in both architectures, it is reported twice. -/
theorem converge_names_not_nodup :
    ¬ ∀ (database : Database) (journal : List JournalEntry) (items : List DesiredItem)
      (options : RunOptions) (changes : List Change) (after : Journaled Database),
      engine.converge items options ⟨database, journal⟩ = .ok changes after →
        (changes.map Change.name).Nodup := by
  intro always
  have planned : glibcPair.goal [⟨"glibc", .absent⟩] = [⟨.remove, "glibc"⟩] := by
    decide +kernel
  have resolves : glibcPair.resolution (glibcPair.goal [⟨"glibc", .absent⟩]) =
      .ok ⟨[], [⟨"glibc", "2.39-1", "x86_64"⟩, ⟨"glibc", "2.39-1", "i686"⟩]⟩ := by
    rw [planned]
    cbv
  obtain ⟨after, run, -⟩ := converge_resolved [] {} glibcPair_calm (by decide) resolves
  have distinct := always glibcPair [] _ {} _ after run
  rw [map_name_report] at distinct
  revert distinct
  decide

end PackageProvider.Memory
