import PackageProvider.Proofs.Convergence.Repetition
import PackageProvider.Proofs.Memory.Consistency

set_option autoImplicit false

/-! What comes of one package that is wanted in some state, where no other package is named by
its name. A run that succeeds leaves it in that state: a package that is to be there is there, one
that is to be absent is gone, and nothing is left that requires it, and one that is to be at its
latest has a build that no build on offer exceeds. -/

namespace PackageProvider.Memory

namespace Database

variable {database : Database} {items : List DesiredItem} {item : DesiredItem}
  {transaction : Transaction}

theorem intent?_of_latest (latest : item.ensure = .latest) (state : PackageState) :
    ∃ intent, Plan.intent? item state = some intent := by
  obtain ⟨name, ensure⟩ := item
  subst latest
  cases state <;> exact ⟨_, rfl⟩

theorem isPlain_singleton
    (plain : ∀ build ∈ database.available ++ database.installed,
      build.isNamedBy item.spec = true → build.name = item.name) :
    database.IsPlain [item] := by
  intro intent planned build known named
  obtain ⟨other, member, intends⟩ := List.mem_filterMap.mp planned
  rw [List.mem_singleton.mp member] at intends
  rw [Plan.spec_of_intent? intends] at named
  rw [(intent?_cases intends).1]
  exact plain build known named

section Unwanted

variable (plain : database.IsPlain items)
  (resolved : Resolved database (database.goal items) transaction)
  (unwanted : ∀ item ∈ items, item.ensure = .absent)

include plain resolved unwanted

theorem installs_eq_nil_of_unwanted : transaction.installs = [] := by
  rw [List.eq_nil_iff_forall_not_mem]
  intro build comes
  obtain ⟨start, chosen, -⟩ := (resolved.brought build comes).reached
  obtain ⟨⟨item, member, -, wanted⟩, -⟩ := exceeds_of_chosen plain chosen
  exact wanted (unwanted item member)

theorem not_requires_applied_of_unwanted (member : item ∈ items)
    (there : database.hasInstalled item.name = true) :
    ∀ build ∈ (database.applied transaction).installed,
      ¬ database.Requires build.name item.name := by
  intro build left requires
  rcases (mem_applied_iff resolved.distinct).mp left with ⟨old, stays, -⟩ | added
  · have goes := removes_of_unwanted resolved member (unwanted item member)
    exact not_loses_of_stays resolved old stays requires ⟨there, goes⟩
  · rw [installs_eq_nil_of_unwanted plain resolved unwanted] at added
    cases added

end Unwanted

variable (plain : database.IsPlain [item])
  (resolved : Resolved database (database.goal [item]) transaction)

include plain resolved

theorem inPlace_applied (supported : item.ensure ≠ .held) :
    (database.applied transaction).InPlace item := by
  apply inPlace_applied_of_apart plain resolved
  · intro other member
    rw [List.mem_singleton.mp member]
    exact supported
  · intro first firstMember second secondMember wanted unwanted
    rw [List.mem_singleton.mp firstMember] at wanted
    rw [List.mem_singleton.mp secondMember] at unwanted
    exact (wanted unwanted).elim
  · exact List.mem_singleton_self item

theorem exists_latest_applied (latest : item.ensure = .latest) :
    ∃ build ∈ (database.applied transaction).installedNamed item.name,
      ∀ other ∈ database.available, other.name = item.name → ¬ other.Exceeds build := by
  have wanted : item.ensure ≠ .absent := by
    rw [latest]
    decide
  have placed := inPlace_applied plain resolved (by rw [latest]; decide)
  have there : (database.applied transaction).hasInstalled item.name = true := by
    rw [InPlace] at placed
    rw [placed, latest]
    rfl
  obtain ⟨intent, intends⟩ := intent?_of_latest latest (database.stateOf item.name)
  obtain ⟨-, build, known, highest⟩ := upToDate_applied plain resolved (List.nodup_singleton _)
    (List.mem_singleton_self item) wanted intends there
  refine ⟨build, known, fun other offered sameName => highest other offered ?_⟩
  rw [Plan.spec_of_intent? intends, DesiredItem.spec, latest, ← sameName]
  exact isNamedBy_name other

end Database

/-- A run for one package that is wanted by its name alone leaves it as wanted, if it succeeds. -/
theorem converge_reaches (database : Database) (journal : List JournalEntry) (name : String)
    (ensure : Ensure) (retry : RetryPolicy) {changes : List Change} {after : Journaled Database}
    (plain : ∀ build ∈ database.available ++ database.installed,
      build.isNamedBy name = true → build.name = name)
    (run : engine.converge [⟨name, ensure⟩] { noop := false, retry } ⟨database, journal⟩ =
      .ok changes after) :
    (ensure = .present → after.world.hasInstalled name = true) ∧
    (ensure = .absent →
      after.world.hasInstalled name = false ∧
        (database.hasInstalled name = true →
          ∀ build ∈ after.world.installed, ¬ after.world.Requires build.name name)) ∧
    (ensure = .latest →
      ∃ build ∈ after.world.installedNamed name,
        ∀ other ∈ after.world.available, other.name = name → ¬ other.Exceeds build) := by
  have ended := Act.Ensures.of_ok
    (converge_ensures [⟨name, ensure⟩] { noop := false, retry }) run
  cases ended with
  | @done transaction _ supported resolves leaves =>
      have leaves : (database.applied transaction).Untouched after.world := leaves
      have resolved := Database.resolution_resolved resolves
      have placed (own : DesiredItem.spec ⟨name, ensure⟩ = name) :
          after.world.InPlace ⟨name, ensure⟩ := by
        rw [leaves.inPlace]
        exact Database.inPlace_applied (Database.isPlain_singleton (own.symm ▸ plain)) resolved
          (supported _ (List.mem_singleton_self _))
      refine ⟨?_, ?_, ?_⟩
      · intro present
        subst present
        exact placed rfl
      · intro absent
        subst absent
        refine ⟨placed rfl, fun there => ?_⟩
        rw [leaves.installed]
        simp only [Database.Requires, leaves.requirements]
        exact Database.not_requires_applied_of_unwanted (Database.isPlain_singleton plain) resolved
          (List.forall_mem_singleton.mpr rfl) List.mem_cons_self there
      · intro latest
        subst latest
        rw [leaves.installedNamed, leaves.available]
        exact Database.exists_latest_applied (Database.isPlain_singleton plain) resolved rfl

/-- A library for two architectures, a package that requires it, and two builds on offer whose
versions are the same to the order, though not as texts. -/
def libcurlPair : Database where
  installed := [⟨"libcurl", "8.4-1", "x86_64"⟩, ⟨"libcurl", "8.3-1", "i686"⟩,
    ⟨"curl", "8.4-1", "x86_64"⟩]
  available := [⟨"libcurl", "8.5-1", "x86_64"⟩, ⟨"libcurl", "8.05-1", "i686"⟩,
    ⟨"libcurl", "8.4-1", "x86_64"⟩]
  requires := [("curl", "libcurl")]

theorem libcurlPair_reaches :
    (∃ changes after,
      engine.converge [⟨"libcurl", .latest⟩] { noop := false, retry := .once }
          ⟨libcurlPair, []⟩ = .ok changes after ∧
        ∃ build ∈ after.world.installedNamed "libcurl",
          ∀ other ∈ after.world.available, other.name = "libcurl" → ¬ other.Exceeds build) ∧
    (∃ changes after,
      engine.converge [⟨"libcurl", .absent⟩] { noop := false, retry := .once }
          ⟨libcurlPair, []⟩ = .ok changes after ∧
        after.world.hasInstalled "libcurl" = false ∧
          ∀ build ∈ after.world.installed, ¬ after.world.Requires build.name "libcurl") ∧
    ∃ changes after,
      engine.converge [⟨"libcurl", .present⟩] { noop := false, retry := .once }
          ⟨libcurlPair, []⟩ = .ok changes after ∧
        after.world.hasInstalled "libcurl" = true := by
  have calm : ¬ libcurlPair.IsArmed := Database.calm_of_no_rules rfl
  have plain : ∀ build ∈ libcurlPair.available ++ libcurlPair.installed,
      build.isNamedBy "libcurl" = true → build.name = "libcurl" := by
    decide +kernel
  have upgrades : libcurlPair.goal [⟨"libcurl", .latest⟩] = [⟨.upgrade, "libcurl"⟩] := by
    decide +kernel
  have selected : libcurlPair.select ⟨.upgrade, "libcurl"⟩ =
      .ok (.install ⟨"libcurl", "8.05-1", "i686"⟩) := by
    decide +kernel
  have removes : libcurlPair.goal [⟨"libcurl", .absent⟩] = [⟨.remove, "libcurl"⟩] := by
    decide +kernel
  refine ⟨?_, ?_, ?_⟩
  · have resolves : libcurlPair.resolution (libcurlPair.goal [⟨"libcurl", .latest⟩]) =
        .ok ⟨[⟨"libcurl", "8.05-1", "i686"⟩], []⟩ := by
      rw [upgrades, Database.resolution, Database.settle, selected]
      cbv
    obtain ⟨after, run, -⟩ := converge_resolved [] { noop := false, retry := .once } calm
      (by decide) resolves
    exact ⟨_, after, run, (converge_reaches libcurlPair [] _ _ .once plain run).2.2 rfl⟩
  · have resolves : libcurlPair.resolution (libcurlPair.goal [⟨"libcurl", .absent⟩]) =
        .ok ⟨[], [⟨"libcurl", "8.4-1", "x86_64"⟩, ⟨"curl", "8.4-1", "x86_64"⟩,
          ⟨"libcurl", "8.3-1", "i686"⟩]⟩ := by
      rw [removes]
      cbv
    obtain ⟨after, run, -⟩ := converge_resolved [] { noop := false, retry := .once } calm
      (by decide) resolves
    obtain ⟨gone, apart⟩ := (converge_reaches libcurlPair [] _ _ .once plain run).2.1 rfl
    exact ⟨_, after, run, gone, apart rfl⟩
  · have resolves : libcurlPair.resolution (libcurlPair.goal [⟨"libcurl", .present⟩]) =
        .ok {} := by
      decide +kernel
    obtain ⟨after, run, -⟩ := converge_resolved [] { noop := false, retry := .once } calm
      (by decide) resolves
    exact ⟨_, after, run, (converge_reaches libcurlPair [] _ _ .once plain run).1 rfl⟩

end PackageProvider.Memory
