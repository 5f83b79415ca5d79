import Mathlib
import PackageProvider.Proofs.Memory.Converging
import PackageProvider.Proofs.Memory.Planned

set_option autoImplicit false

/-! Reported changes are exactly what changed of the requested names, and no package goes
back to an older build. -/

namespace PackageProvider.Memory

theorem mem_report_iff {transaction : Transaction} {requested : List String}
    {baseline : Baseline} {change : Change} :
    change ∈ report transaction requested baseline ↔
      (∃ build ∈ transaction.installs, build.name ∈ requested ∧
          change = ⟨build.name, baseline.get build.name, .ofBuild build⟩) ∨
        ∃ build ∈ transaction.removals, build.name ∈ requested ∧
          change = ⟨build.name, baseline.get build.name, .absent⟩ := by
  simp only [report, List.mem_append, List.mem_map, List.mem_filter, List.contains_iff_mem,
    and_assoc, eq_comm (b := change)]

namespace Database

variable {database : Database} {items : List DesiredItem} {transaction : Transaction}
  {name : String}

inductive Effect (database : Database) (transaction : Transaction) (name : String) : Prop where
  | installs (build : Build) (member : build ∈ transaction.installs) (sameName : build.name = name)
      (reached : (database.applied transaction).stateOf name = .ofBuild build)
      (raises : ∀ old, database.stateOf name = .installed old →
        build.parsedEvr.newer (Evr.ofString old) = true)
  | removes (build : Build) (member : build ∈ transaction.removals) (sameName : build.name = name)
      (reached : (database.applied transaction).stateOf name = .absent)
      (there : database.stateOf name ≠ .absent)
  | keeps (notInstalled : hasName transaction.installs name = false)
      (notRemoved : hasName transaction.removals name = false)
      (same : (database.applied transaction).stateOf name = database.stateOf name)

theorem effect (plain : database.IsPlain items)
    (resolved : Resolved database (database.goal items) transaction) (name : String) :
    Effect database transaction name := by
  cases installs : hasName transaction.installs name with
  | true =>
      obtain ⟨build, member, sameName⟩ := hasName_iff.mp installs
      subst sameName
      have exceeds := exceeds_of_installs plain resolved member
      refine .installs build member rfl
        (database.stateOf_applied_of_install resolved.distinct member exceeds) ?_
      intro old was
      rcases database.stateOf_cases build.name with ⟨absent, -⟩ | ⟨best, there, state, -⟩
      · rw [absent] at was
        cases was
      · rw [state] at was
        cases was
        exact exceeds best there
  | false =>
      cases removes : hasName transaction.removals name with
      | true =>
          obtain ⟨build, member, sameName⟩ := hasName_iff.mp removes
          subst sameName
          have there := resolved.removed_installed build member
          refine .removes build member rfl (stateOf_eq_absent_iff.mpr ?_) ?_
          · exact database.hasInstalled_applied_of_removed resolved.distinct installs
              (removes_together plain resolved member)
          · intro absent
            exact hasInstalled_eq_false_iff.mp (stateOf_eq_absent_iff.mp absent) build there rfl
      | false =>
          refine .keeps installs removes (stateOf_congr ?_)
          exact database.installedNamed_applied resolved.distinct installs removes

def Differs (database after : Database) (items : List DesiredItem) (change : Change) : Prop :=
  change.name ∈ items.map DesiredItem.name ∧ change.was = database.stateOf change.name ∧
    change.now = after.stateOf change.name ∧ change.was ≠ change.now

theorem differs_of_mem_report (plain : database.IsPlain items)
    (resolved : Resolved database (database.goal items) transaction) {change : Change}
    (reported : change ∈
      report transaction (items.map DesiredItem.name) (database.baseline items)) :
    database.Differs (database.applied transaction) items change ∧
      ∀ old new, change.was = .installed old → change.now = .installed new →
        (Evr.ofString new).newer (Evr.ofString old) = true := by
  rcases mem_report_iff.mp reported with
    ⟨build, member, asked, same⟩ | ⟨build, member, asked, same⟩
  · rw [database.get_baseline asked] at same
    subst same
    have installs : hasName transaction.installs build.name = true :=
      hasName_iff.mpr ⟨build, member, rfl⟩
    cases effect plain resolved build.name with
    | installs other otherMember sameName reached raises =>
        have same := List.inj_on_of_nodup_map resolved.distinct otherMember member sameName
        subst same
        refine ⟨⟨asked, rfl, reached.symm, fun unchanged => ?_⟩, ?_⟩
        · -- The same text before and after would exceed itself.
          have higher := raises other.evr unchanged
          exact other.not_exceeds_self higher
        · intro old new was now
          cases now
          exact raises old was
    | removes other otherMember sameName =>
        have removes : hasName transaction.removals build.name = true :=
          hasName_iff.mpr ⟨other, otherMember, sameName⟩
        rw [resolved.apart build member] at removes
        cases removes
    | keeps notInstalled =>
        rw [installs] at notInstalled
        cases notInstalled
  · rw [database.get_baseline asked] at same
    subst same
    have removes : hasName transaction.removals build.name = true :=
      hasName_iff.mpr ⟨build, member, rfl⟩
    cases effect plain resolved build.name with
    | installs other otherMember sameName =>
        rw [← sameName, resolved.apart other otherMember] at removes
        cases removes
    | removes _ _ _ reached there =>
        refine ⟨⟨asked, rfl, reached.symm, there⟩, ?_⟩
        intro old new was now
        cases now
    | keeps _ notRemoved =>
        rw [removes] at notRemoved
        cases notRemoved

theorem mem_report_of_differs (plain : database.IsPlain items)
    (resolved : Resolved database (database.goal items) transaction) {change : Change}
    (differs : database.Differs (database.applied transaction) items change) :
    change ∈ report transaction (items.map DesiredItem.name) (database.baseline items) := by
  obtain ⟨name, was, now⟩ := change
  obtain ⟨asked, sameWas, sameNow, different⟩ := differs
  dsimp only at asked sameWas sameNow different
  subst sameWas sameNow
  rw [mem_report_iff, ← database.get_baseline asked]
  cases effect plain resolved name with
  | installs build member sameName reached =>
      subst sameName
      exact .inl ⟨build, member, asked, by rw [reached]⟩
  | removes build member sameName reached =>
      subst sameName
      exact .inr ⟨build, member, asked, by rw [reached]⟩
  | keeps _ _ same => exact (different same.symm).elim

end Database

/-- The changes are those of the requested names whose states differ, and a package that was
there and still is has a strictly newer build. -/
theorem converge_changes_exact (database : Database) (journal : List JournalEntry)
    (items : List DesiredItem) (retry : RetryPolicy) (changes : List Change)
    (after : Journaled Database) (plain : database.IsPlain items)
    (run : engine.converge items { noop := false, retry } ⟨database, journal⟩ =
      .ok changes after) :
    (∀ change, change ∈ changes ↔
      change.name ∈ items.map DesiredItem.name ∧
        change.was = database.stateOf change.name ∧
        change.now = after.world.stateOf change.name ∧
        change.was ≠ change.now) ∧
    ∀ change ∈ changes, ∀ old new,
      change.was = .installed old → change.now = .installed new →
        (Evr.ofString new).newer (Evr.ofString old) = true := by
  have ended := Act.Ensures.of_ok (converge_ensures items { noop := false, retry }) run
  cases ended with
  | @done transaction _ _ resolves leaves =>
      have resolved := Database.resolution_resolved resolves
      simp only [leaves.stateOf]
      constructor
      · intro change
        constructor
        · exact fun reported => (Database.differs_of_mem_report plain resolved reported).1
        · exact Database.mem_report_of_differs plain resolved
      · intro change reported
        exact (Database.differs_of_mem_report plain resolved reported).2

def outdatedCurl : Database where
  installed := [⟨"curl", "7.88-1", "x86_64"⟩]
  available := [⟨"curl", "7.88-1", "x86_64"⟩, ⟨"curl", "1:7.1-1", "x86_64"⟩]

theorem outdatedCurl_changes_exact :
    ∃ after,
      engine.converge [⟨"curl", .latest⟩] { noop := false, retry := .once } ⟨outdatedCurl, []⟩ =
          .ok [⟨"curl", .installed "7.88-1", .installed "1:7.1-1"⟩] after ∧
        after.world.stateOf "curl" = .installed "1:7.1-1" := by
  have plain : outdatedCurl.IsPlain [⟨"curl", .latest⟩] := by
    unfold Database.IsPlain
    decide
  have calm : ¬ outdatedCurl.IsArmed := Database.calm_of_no_rules rfl
  have resolves : outdatedCurl.resolution (outdatedCurl.goal [⟨"curl", .latest⟩]) =
      .ok ⟨[⟨"curl", "1:7.1-1", "x86_64"⟩], []⟩ := by
    cbv
  obtain ⟨after, run, -⟩ := converge_resolved [] { noop := false, retry := .once } calm
    (by decide) resolves
  have changesExact := converge_changes_exact outdatedCurl [] _ .once _ after plain run
  have reported := (changesExact.1 ⟨"curl", .installed "7.88-1", .installed "1:7.1-1"⟩).mp
    List.mem_cons_self
  exact ⟨after, run, reported.2.2.1.symm⟩

end PackageProvider.Memory
