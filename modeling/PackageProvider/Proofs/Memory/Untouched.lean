import PackageProvider.Memory.Resolution

set_option autoImplicit false

/-! What a call that fails or only looks leaves as it was. What a goal amounts to is the same
before and after such calls. -/

namespace PackageProvider.Memory

namespace FailureRules

variable {rules : FailureRules} {point : FailurePoint}

def Armed (rules : FailureRules) (point : FailurePoint) : Prop :=
  ∃ rule, rules.get? point = some rule ∧ rule.remaining ≠ some 0

/-- What a call does to the rules: it passes, or a rule without a count makes it fail, or a
rule with a count does, which loses one by it. -/
inductive Tripped (rules : FailureRules) (point : FailurePoint) : Prop where
  | passes (disarmed : ¬ rules.Armed point) (trips : rules.trip point = (none, rules))
  | fails (rule : FailureRule) (found : rules.get? point = some rule)
      (forever : rule.remaining = none)
      (trips : rules.trip point = (some (rule.category.error rule.message), rules))
  | failsOnce (rule : FailureRule) (left : Nat) (found : rules.get? point = some rule)
      (counted : rule.remaining = some (left + 1))
      (trips : rules.trip point = (some (rule.category.error rule.message),
        rules.insert point { rule with remaining := some left }))

theorem tripped (rules : FailureRules) (point : FailurePoint) : Tripped rules point := by
  cases found : rules.get? point with
  | none =>
      refine .passes ?_ (by rw [trip, found])
      rintro ⟨rule, foundRule, -⟩
      rw [found] at foundRule
      cases foundRule
  | some rule =>
      obtain ⟨category, message, remaining⟩ := rule
      match remaining with
      | none => exact .fails _ found rfl (by rw [trip, found])
      | some 0 =>
          refine .passes ?_ (by rw [trip, found])
          rintro ⟨rule, foundRule, armed⟩
          rw [found] at foundRule
          cases foundRule
          exact armed rfl
      | some (left + 1) => exact .failsOnce _ left found rfl (by rw [trip, found])

theorem trip_of_not_armed (disarmed : ¬ rules.Armed point) : rules.trip point = (none, rules) := by
  cases tripped rules point with
  | passes _ trips => exact trips
  | fails rule found forever => exact (disarmed ⟨rule, found, by rw [forever]; simp⟩).elim
  | failsOnce rule left found counted =>
      exact (disarmed ⟨rule, found, by rw [counted]; simp⟩).elim

theorem armed_of_trip {error : EngineError} (fails : (rules.trip point).1 = some error) :
    rules.Armed point := by
  refine Classical.byContradiction fun disarmed => ?_
  rw [trip_of_not_armed disarmed] at fails
  cases fails

theorem armed_of_armed_trip {other : FailurePoint} (armed : (rules.trip point).2.Armed other) :
    rules.Armed other := by
  cases tripped rules point with
  | passes _ trips => rwa [trips] at armed
  | fails _ _ _ trips => rwa [trips] at armed
  | failsOnce rule left found counted trips =>
      rw [trips] at armed
      obtain ⟨lowered, atOther, spare⟩ := armed
      rw [get?_insert] at atOther
      by_cases same : other = point
      · subst same
        exact ⟨rule, found, by rw [counted]; simp⟩
      · rw [if_neg same] at atOther
        exact ⟨lowered, atOther, spare⟩

end FailureRules

namespace Database

/-- What the machine holds is the same, and no failure rule is armed that was not. Calls may
have been counted and rules used up. -/
structure Untouched (before after : Database) : Prop where
  installed : after.installed = before.installed
  available : after.available = before.available
  requires : after.requires = before.requires
  rules : ∀ point, after.failures.Armed point → before.failures.Armed point

theorem Untouched.refl (database : Database) : Untouched database database :=
  ⟨rfl, rfl, rfl, fun _ armed => armed⟩

theorem Untouched.trans {first second third : Database} (early : Untouched first second)
    (late : Untouched second third) : Untouched first third :=
  ⟨late.installed.trans early.installed, late.available.trans early.available,
    late.requires.trans early.requires,
    fun point armed => early.rules point (late.rules point armed)⟩

def called (database : Database) (point : FailurePoint) (raise : CallCounts → CallCounts) :
    Database :=
  { database with
    failures := (database.failures.trip point).2
    counts := raise database.counts }

theorem untouched_called (database : Database) (point : FailurePoint)
    (raise : CallCounts → CallCounts) : Untouched database (database.called point raise) :=
  ⟨rfl, rfl, rfl, fun _ armed => FailureRules.armed_of_armed_trip armed⟩

def IsArmed (database : Database) : Prop := ∃ point, database.failures.Armed point

theorem calm_of_no_rules {database : Database} (noRules : database.failures = {}) :
    ¬ database.IsArmed := by
  rintro ⟨point, rule, found, -⟩
  rw [noRules] at found
  cases point <;> cases found

end Database

namespace Database.Untouched

variable {before after : Database} (same : Untouched before after)

include same

theorem requirements (name : String) : after.requirements name = before.requirements name := by
  rw [Database.requirements, same.requires, Database.requirements]

theorem hasInstalled (name : String) : after.hasInstalled name = before.hasInstalled name := by
  rw [Database.hasInstalled, same.installed, Database.hasInstalled]

theorem installedNamed (name : String) :
    after.installedNamed name = before.installedNamed name := by
  rw [Database.installedNamed, same.installed, Database.installedNamed]

theorem newestAvailable? (test : Build → Bool) :
    after.newestAvailable? test = before.newestAvailable? test := by
  rw [Database.newestAvailable?, same.available, Database.newestAvailable?]

theorem demands (name : String) : after.demands name = before.demands name := by
  rw [Database.demands, same.requirements, Database.demands]

theorem dependents (name : String) : after.dependents name = before.dependents name := by
  simp only [Database.dependents, same.installed, same.requirements]

theorem provide (chosen : List Build) (demands : List Demand) :
    after.provide chosen demands = before.provide chosen demands := by
  fun_induction before.provide chosen demands with
  | case1 chosen => rw [Database.provide]
  | case2 chosen demand rest there ih =>
      rw [Database.provide, same.hasInstalled, if_pos there, ih]
  | case3 chosen demand rest missing fresh none =>
      rw [Database.provide, same.hasInstalled, if_neg missing, dif_pos fresh]
      split
      · rfl
      · rename_i build best
        rw [same.newestAvailable?, none] at best
        cases best
  | case4 chosen demand rest missing fresh build best ih =>
      rw [Database.provide, same.hasInstalled, if_neg missing, dif_pos fresh]
      split
      · rename_i none
        rw [same.newestAvailable?, best] at none
        cases none
      · rename_i other found
        rw [same.newestAvailable?, best] at found
        cases found
        rw [same.demands, ih]
  | case5 chosen demand rest missing taken ih =>
      rw [Database.provide, same.hasInstalled, if_neg missing, dif_neg taken, ih]

theorem cascade (gone pending : List Build) :
    after.cascade gone pending = before.cascade gone pending := by
  fun_induction before.cascade gone pending with
  | case1 gone => rw [Database.cascade]
  | case2 gone build rest goes ih =>
      rw [Database.cascade, dif_pos (by rw [same.installed]; exact goes), same.dependents, ih]
  | case3 gone build rest stays ih =>
      rw [Database.cascade, dif_neg (by rw [same.installed]; exact stays), ih]

theorem select (directive : Directive) : after.select directive = before.select directive := by
  simp only [Database.select, Database.selectInstall, Database.selectUpgrade,
    Database.selectRemove, Database.specName?, same.installed, same.available,
    same.installedNamed, same.newestAvailable?]

theorem extend (transaction : Transaction) (selection : Selection) :
    after.extend transaction selection = before.extend transaction selection := by
  cases selection <;> simp only [Database.extend, same.demands, same.provide, same.cascade]

theorem settle (transaction : Transaction) (goal : List Directive) :
    after.settle transaction goal = before.settle transaction goal := by
  induction goal generalizing transaction with
  | nil => rfl
  | cons directive rest ih => simp only [Database.settle, same.select, same.extend, ih]

theorem resolution (goal : List Directive) : after.resolution goal = before.resolution goal := by
  rw [Database.resolution, same.settle, Database.resolution]

end Database.Untouched

end PackageProvider.Memory
