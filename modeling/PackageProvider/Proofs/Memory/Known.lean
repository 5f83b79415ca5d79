import Mathlib
import PackageProvider.Proofs.Memory.Inventory
import PackageProvider.Proofs.Memory.Planned
import PackageProvider.Proofs.Memory.Sharing

set_option autoImplicit false

/-! What is installed stays on offer. A database may be added to, converged, inspected and used
through handles in any order, and a transaction may be applied long after it was resolved. -/

namespace PackageProvider.Memory

open Act (Ensures)

inductive Addition where
  | installed (build : Build)
  | available (build : Build)
  | requirement (name dependency : String)
  | failure (point : FailurePoint) (rule : FailureRule)

def Database.add (database : Database) : Addition → Database
  | .installed build => database.withInstalled build
  | .available build => database.withAvailable build
  | .requirement name dependency => database.withRequirement name dependency
  | .failure point rule => database.withFailure point rule

def ResolvedOn (databases : List Database) (transaction : Transaction) : Prop :=
  ∃ database ∈ databases, ∃ goal, database.resolution goal = .ok transaction

namespace SharedDatabase

/-- What an action in a session of its own leaves. The handles have no part in it. -/
def session {Error Result : Type} (shared : SharedDatabase) (action : Act Database Error Result) :
    SharedDatabase :=
  let left := (action.outcome ⟨shared.database, shared.journal⟩).2
  { shared with database := left.world, journal := left.journal }

theorem session_database {Error Result : Type} (shared : SharedDatabase)
    (action : Act Database Error Result) :
    (shared.session action).database =
      (action.outcome ⟨shared.database, shared.journal⟩).2.world := rfl

/-- How a database comes about that nothing was applied to but what it resolved to itself, now
or earlier. The list has the databases that it was before. -/
inductive Reached : List Database → SharedDatabase → Prop where
  | fresh : Reached [] { database := {} }
  | added {past : List Database} {shared : SharedDatabase} (reached : Reached past shared)
      (addition : Addition) :
      Reached (shared.database :: past) { shared with database := shared.database.add addition }
  | converged {past : List Database} {shared : SharedDatabase} (reached : Reached past shared)
      (items : List DesiredItem) (options : RunOptions) :
      Reached (shared.database :: past) (shared.session (engine.converge items options))
  | inspected {past : List Database} {shared : SharedDatabase} (reached : Reached past shared)
      (names : List String) :
      Reached (shared.database :: past) (shared.session (engine.currentState names))
  | stepped {past : List Database} {shared : SharedDatabase} (reached : Reached past shared)
      (step : Step)
      (resolved : ∀ number transaction, step = .ask number (.apply transaction) →
        ResolvedOn (shared.database :: past) transaction) :
      Reached (shared.database :: past) (shared.step step)

end SharedDatabase

namespace Database

structure Known (past : List Database) (database : Database) : Prop where
  installed : ∀ build ∈ database.installed, build ∈ database.available
  offered : ∀ earlier ∈ past, ∀ build ∈ earlier.available, build ∈ database.available

namespace Known

variable {past : List Database} {before after : Database}

theorem next (known : Known past before)
    (grows : ∀ build ∈ before.available, build ∈ after.available)
    (arrives : ∀ build ∈ after.installed, build ∈ before.installed ∨ build ∈ after.available) :
    Known (before :: past) after := by
  constructor
  · intro build there
    rcases arrives build there with old | new
    · exact grows build (known.installed build old)
    · exact new
  · intro earlier member build there
    rcases List.mem_cons.mp member with same | older
    · exact grows build (same ▸ there)
    · exact grows build (known.offered earlier older build there)

theorem untouched (known : Known past before) (same : before.Untouched after) :
    Known (before :: past) after := by
  refine known.next ?_ ?_
  · intro build there
    rwa [same.available]
  · intro build there
    rw [same.installed] at there
    exact .inl there

theorem add (known : Known past before) (addition : Addition) :
    Known (before :: past) (before.add addition) := by
  cases addition with
  | installed build =>
      have grows : ∀ other, other ∈ before.available ∨ other = build →
          other ∈ (before.withInstalled build).available := by
        intro other
        simp only [withInstalled, List.contains_iff_mem]
        split <;> grind
      refine known.next (fun other there => grows other (.inl there)) fun other there => ?_
      rcases List.mem_append.mp there with old | new
      · exact .inl old
      · exact .inr (grows other (.inr (List.mem_singleton.mp new)))
  | available build =>
      exact known.next (fun _ there => List.mem_append_left _ there) fun _ there => .inl there
  | requirement name dependency => exact known.next (fun _ there => there) fun _ there => .inl there
  | failure point rule => exact known.next (fun _ there => there) fun _ there => .inl there

/-- However old a transaction is, what it installs was on offer when it was resolved. -/
theorem of_applied (known : Known past before) {transaction : Transaction}
    (resolved : ResolvedOn (before :: past) transaction)
    (available : after.available = before.available)
    (installs : after.installed = (before.applied transaction).installed) :
    Known (before :: past) after := by
  obtain ⟨earlier, member, goal, resolves⟩ := resolved
  have account := resolution_resolved resolves
  refine known.next ?_ ?_
  · intro build there
    rwa [available]
  · intro build there
    rw [installs] at there
    rcases (mem_applied_iff account.distinct).mp there with ⟨old, -, -⟩ | new
    · exact .inl old
    · have offered := account.offered build new
      rw [available]
      rcases List.mem_cons.mp member with same | older
      · exact .inr (same ▸ offered)
      · exact .inr (known.offered earlier older build offered)

theorem of_converged (known : Known past before) {items : List DesiredItem} {noop : Bool}
    {result : Except ConvergeError (List Change)}
    (ended : Converged before items noop result after) :
    Known (before :: past) after := by
  cases ended with
  | refused => exact known.untouched (.refl before)
  | failed same => exact known.untouched same
  | done _ resolves leaves =>
      cases noop with
      | true => exact known.untouched leaves
      | false =>
          exact known.of_applied ⟨before, List.mem_cons_self, _, resolves⟩ leaves.available
            leaves.installed

end Known

end Database

theorem SharedDatabase.Reached.known {past : List Database} {shared : SharedDatabase}
    (reached : Reached past shared) : shared.database.Known past := by
  -- A transaction may be much older than the database it is applied to. What it installs was on
  -- offer back then, so the invariant also has to say that nothing went off offer since.
  induction reached with
  | fresh =>
      constructor
      · intro build impossible
        exact (List.not_mem_nil impossible).elim
      · intro earlier impossible
        exact (List.not_mem_nil impossible).elim
  | added _ addition ih => exact ih.add addition
  | @converged past shared _ items options ih =>
      rw [session_database]
      exact ih.of_converged (converge_ensures items options shared.journal)
  | @inspected past shared _ names ih =>
      rw [session_database]
      exact ih.untouched (currentState_ensures names shared.journal).1
  | @stepped past shared _ step resolved ih =>
      obtain ⟨available, -, same | ⟨number, transaction, asked, -, installs⟩⟩ :=
        shared.step_database step
      · refine ih.next ?_ ?_
        · intro build there
          rwa [available]
        · intro build there
          rw [same] at there
          exact .inl there
      · exact ih.of_applied (resolved number transaction asked) available installs

/-! ### Removing a name -/

namespace Database

variable {database : Database}

theorem goal_absent (database : Database) (name : String) :
    database.goal [⟨name, .absent⟩] =
      if database.hasInstalled name then [⟨.remove, name⟩] else [] := by
  have absent := database.isAbsent_stateOf name
  simp only [goal, planned, List.filterMap_cons, List.filterMap_nil, Plan.intent?, absent]
  cases database.hasInstalled name <;> rfl

theorem resolution_absent (database : Database) (name : String) :
    ∃ transaction, database.resolution (database.goal [⟨name, .absent⟩]) = .ok transaction ∧
      transaction.installs = [] := by
  rw [goal_absent]
  cases there : database.hasInstalled name with
  | false => exact ⟨{}, rfl, rfl⟩
  | true =>
      obtain ⟨build, member, sameName⟩ := hasInstalled_iff.mp there
      have victim : build ∈ database.installed.filter fun build => build.isNamedBy name :=
        List.mem_filter.mpr ⟨member, sameName ▸ isNamedBy_name build⟩
      cases victims : database.installed.filter fun build => build.isNamedBy name with
      | nil =>
          rw [victims] at victim
          cases victim
      | cons first rest =>
          have selected : database.select ⟨.remove, name⟩ = .ok (.remove (first :: rest)) := by
            rw [select, selectRemove, victims]
          refine ⟨{ removals := database.cascade [] (first :: rest) }, ?_, rfl⟩
          rw [if_pos rfl, resolution_eq_gathered, gathered_cons, take, selected]
          rfl

end Database

theorem hasName_of_known {installed available : List Build}
    (known : ∀ build ∈ installed, build ∈ available) (name : String) :
    hasName (installed ++ available) name = hasName available name := by
  rw [Bool.eq_iff_iff, hasName_iff, hasName_iff]
  constructor
  · rintro ⟨build, member, sameName⟩
    rcases List.mem_append.mp member with there | offered
    · exact ⟨build, known build there, sameName⟩
    · exact ⟨build, offered, sameName⟩
  · rintro ⟨build, offered, sameName⟩
    exact ⟨build, List.mem_append_right _ offered, sameName⟩

theorem currentState_succeeds (names : List String) {state : Journaled Database}
    (calm : ¬ state.world.IsArmed) :
    ∃ after, engine.currentState names state = .ok (state.world.inventory names) after := by
  cases ran : engine.currentState names state with
  | error error after =>
      obtain ⟨-, armed⟩ := (currentState_ensures names).of_error ran
      exact (calm armed).elim
  | ok inventory after =>
      obtain ⟨-, listed⟩ := (currentState_ensures names).of_ok ran
      exact ⟨after, by rw [listed]⟩

/-- What is installed is on offer, so a name that is removed is listed as absent from then on. -/
theorem installed_stays_known {past : List Database} {shared : SharedDatabase}
    (reached : SharedDatabase.Reached past shared) :
    (∀ build ∈ shared.database.installed, build ∈ shared.database.available) ∧
      (¬ shared.database.IsArmed → ∀ name retry journal, ∃ changes after final,
        engine.converge [⟨name, .absent⟩] { noop := false, retry } ⟨shared.database, journal⟩ =
            .ok changes after ∧
          engine.currentState [name] after =
            .ok
              { present := []
                absent :=
                  if hasName (shared.database.installed ++ shared.database.available) name then
                    [name]
                  else [] }
              final) := by
  have known := reached.known.installed
  refine ⟨known, ?_⟩
  intro calm name retry journal
  obtain ⟨transaction, resolves, noInstalls⟩ := shared.database.resolution_absent name
  have account := Database.resolution_resolved resolves
  obtain ⟨after, ran, left⟩ := converge_resolved journal { noop := false, retry } calm
    (by simp) resolves
  have applied : (shared.database.applied transaction).Untouched after.world := left
  have gone : (shared.database.applied transaction).hasInstalled name = false := by
    refine shared.database.hasInstalled_applied_of_removed account.distinct ?_ ?_
    · rw [noInstalls]
      rfl
    · exact Database.removes_of_unwanted account (List.mem_singleton_self _) rfl
  have stillCalm : ¬ after.world.IsArmed := fun armed => calm (applied.isArmed armed)
  obtain ⟨final, looked⟩ := currentState_succeeds [name] stillCalm
  refine ⟨_, after, final, ran, ?_⟩
  rw [looked, applied.inventory, Database.inventory_of_not_installed gone, hasName_of_known known]
  rfl

def lateHandle : SharedDatabase :=
  let offering : SharedDatabase := { database := { available := [⟨"curl", "8.1-1", "x86_64"⟩] } }
  let resolved := offering.run [.openHandle, .ask 0 (.submit ⟨.install, "curl"⟩), .ask 0 .resolve]
  { resolved with database := resolved.database.withInstalled ⟨"curl", "8.2-1", "x86_64"⟩ }

/-- Applying what was resolved then puts the older build in the place of the newer one. -/
theorem lateHandle_stays_known :
    let shared := lateHandle.step (.ask 0 (.apply { installs := [⟨"curl", "8.1-1", "x86_64"⟩] }))
    (∃ past, SharedDatabase.Reached past shared) ∧
      shared.database.installed = [⟨"curl", "8.1-1", "x86_64"⟩] ∧
      (∀ build ∈ shared.database.installed, build ∈ shared.database.available) ∧
      ∃ changes after final,
        engine.converge [⟨"curl", .absent⟩] { noop := false, retry := .standard }
            ⟨shared.database, []⟩ = .ok changes after ∧
          engine.currentState ["curl"] after = .ok { present := [], absent := ["curl"] } final := by
  intro shared
  have offering := SharedDatabase.Reached.fresh.added (.available ⟨"curl", "8.1-1", "x86_64"⟩)
  have submitted := (offering.stepped .openHandle nofun).stepped
    (.ask 0 (.submit ⟨.install, "curl"⟩)) nofun
  have resolved := submitted.stepped (.ask 0 .resolve) nofun
  have late := resolved.added (.installed ⟨"curl", "8.2-1", "x86_64"⟩)
  have applied := late.stepped (.ask 0 (.apply { installs := [⟨"curl", "8.1-1", "x86_64"⟩] })) (by
    rintro _ _ ⟨⟩
    refine ⟨_, .tail _ (.tail _ (.head _)), [⟨.install, "curl"⟩], ?_⟩
    cbv)
  have reached : SharedDatabase.Reached _ shared := applied
  have noRules : shared.database.failures = {} := by
    change (lateHandle.step _).database.failures = {}
    cbv
  have calm : ¬ shared.database.IsArmed := Database.calm_of_no_rules noRules
  have installs : shared.database.installed = [⟨"curl", "8.1-1", "x86_64"⟩] := by
    change (lateHandle.step _).database.installed = _
    cbv
  have listed : hasName (shared.database.installed ++ shared.database.available) "curl" = true := by
    rw [installs]
    rfl
  obtain ⟨known, removes⟩ := installed_stays_known reached
  refine ⟨⟨_, reached⟩, installs, known, ?_⟩
  have removed := removes calm "curl" .standard []
  rwa [if_pos listed] at removed

end PackageProvider.Memory
