import PackageProvider.EngineError
import PackageProvider.Transaction

set_option autoImplicit false

/-! A package database held in memory: what is installed, what is on offer, which name
requires which, and, for rehearsals, which calls are to fail. -/

namespace PackageProvider.Memory

inductive FailurePoint where
  | opening
  | query
  | resolve
  | download
  | apply
  deriving DecidableEq, Repr, Inhabited

/-- How the calls at one point fail. A rule with a count is spent when it reaches zero,
and one without a count never is. -/
structure FailureRule where
  category : ErrorCategory
  message : String
  remaining : Option Nat
  deriving DecidableEq, Repr, Inhabited

structure FailureRules where
  opening : Option FailureRule := none
  query : Option FailureRule := none
  resolve : Option FailureRule := none
  download : Option FailureRule := none
  apply : Option FailureRule := none
  deriving DecidableEq, Repr, Inhabited

namespace FailureRules

def get? (rules : FailureRules) : FailurePoint → Option FailureRule
  | .opening => rules.opening
  | .query => rules.query
  | .resolve => rules.resolve
  | .download => rules.download
  | .apply => rules.apply

def insert (rules : FailureRules) (point : FailurePoint) (rule : FailureRule) : FailureRules :=
  match point with
  | .opening => { rules with opening := some rule }
  | .query => { rules with query := some rule }
  | .resolve => { rules with resolve := some rule }
  | .download => { rules with download := some rule }
  | .apply => { rules with apply := some rule }

theorem get?_insert (rules : FailureRules) (point other : FailurePoint) (rule : FailureRule) :
    (rules.insert point rule).get? other =
      if other = point then some rule else rules.get? other := by
  cases point <;> cases other <;> rfl

def trip (rules : FailureRules) (point : FailurePoint) : Option EngineError × FailureRules :=
  match rules.get? point with
  | none => (none, rules)
  | some rule =>
      let error := rule.category.error rule.message
      match rule.remaining with
      | some 0 => (none, rules)
      | some (left + 1) => (some error, rules.insert point { rule with remaining := some left })
      | none => (some error, rules)

end FailureRules

/-- How often each call has been made without a failure rule getting in its way. -/
structure CallCounts where
  opened : Nat := 0
  closed : Nat := 0
  queries : Nat := 0
  submitted : Nat := 0
  resolved : Nat := 0
  downloads : Nat := 0
  applies : Nat := 0
  deriving DecidableEq, Repr, Inhabited

def CallCounts.mutating (counts : CallCounts) : Nat :=
  counts.submitted + counts.downloads + counts.applies

structure Database where
  installed : List Build := []
  available : List Build := []
  /-- Pairs of a name and a name it requires, in the order in which they were declared. -/
  requires : List (String × String) := []
  failures : FailureRules := {}
  counts : CallCounts := {}
  deriving DecidableEq, Repr, Inhabited

namespace Database

/-- Installs a build. An installed build is also on offer. -/
def withInstalled (database : Database) (build : Build) : Database :=
  { database with
    installed := database.installed ++ [build]
    available :=
      if database.available.contains build then database.available
      else database.available ++ [build] }

def withAvailable (database : Database) (build : Build) : Database :=
  { database with available := database.available ++ [build] }

def withRequirement (database : Database) (name dependency : String) : Database :=
  { database with requires := database.requires ++ [(name, dependency)] }

def withFailure (database : Database) (point : FailurePoint) (rule : FailureRule) : Database :=
  { database with failures := database.failures.insert point rule }

def requirements (database : Database) (name : String) : List String :=
  (database.requires.filter fun pair => pair.1 == name).map (·.2)

def installedNamed (database : Database) (name : String) : List Build :=
  database.installed.filter fun build => build.name == name

def hasInstalled (database : Database) (name : String) : Bool :=
  database.installed.any fun build => build.name == name

def newestAvailable? (database : Database) (test : Build → Bool) : Option Build :=
  Build.newest? (database.available.filter test)

def named (names : List String) (builds : List Build) : List Build :=
  builds.filter fun build => names.isEmpty || names.contains build.name

/-- The database after a transaction: what is removed goes first, then each new build takes
the place of those with its name and architecture. -/
def applied (database : Database) (transaction : Transaction) : Database :=
  let kept := transaction.removals.foldl
    (fun installed removed => installed.filter fun build => build != removed) database.installed
  let installed := transaction.installs.foldl
    (fun installed added =>
      (installed.filter fun build => !(build.name == added.name && build.arch == added.arch))
        ++ [added])
    kept
  { database with installed }

end Database

end PackageProvider.Memory
