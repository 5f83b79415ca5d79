import PackageProvider.Plan
import PackageProvider.Retry

set_option autoImplicit false

/-! Converging: planning, one transaction for all intents together, and a report of what
became of the requested packages. -/

namespace PackageProvider

structure RunOptions where
  /-- Stop after resolving; nothing is downloaded or applied. -/
  noop : Bool := false
  retry : RetryPolicy := .standard

/-- The changes of the requested packages: those installed, then those removed, each in
engine order. What came along as a requirement or a dependent is left out. -/
def report (transaction : Transaction) (requested : List String) (baseline : Baseline) :
    List Change :=
  let wanted := List.filter fun build : Build => requested.contains build.name
  let change (now : Build → PackageState) (build : Build) : Change :=
    ⟨build.name, baseline.get build.name, now build⟩
  (wanted transaction.installs).map (change .ofBuild)
    ++ (wanted transaction.removals).map (change fun _ => .absent)

namespace Engine

variable {World Handle : Type}

/-- Downloads what is to be installed, again after errors that may pass, and applies the
transaction. Nothing is downloaded where nothing is installed. -/
def carryOut (engine : Engine World Handle) (transaction : Transaction) (retry : RetryPolicy) :
    Act (World × Handle) EngineError Unit := do
  if !transaction.installs.isEmpty then
    Retry.run retry Retry.warn (engine.download transaction.installs)
  engine.apply transaction
  Act.note .info ("Applied " ++ transaction.size.repr ++ " package operation(s)")

/-- Takes the intents through one transaction. All of them are submitted before anything
is resolved, and without intents the engine is not called at all. -/
def execute (engine : Engine World Handle) (intents : List Intent) (options : RunOptions) :
    Act (World × Handle) EngineError Transaction := do
  if intents.isEmpty then return {}
  intents.forM fun intent => engine.submit intent.directive
  let transaction ← engine.resolve
  Act.note .info
    ("Resolved transaction: " ++ transaction.installs.length.repr ++ " to install, "
      ++ transaction.removals.length.repr ++ " to remove")
  if options.noop then
    Act.note .info "No-op mode, skipping download and apply"
  else if !transaction.isEmpty then
    engine.carryOut transaction options.retry
  return transaction

/-- Brings the items to their wanted states in a session of its own. Items that cannot be
planned are refused before the engine is opened. -/
def converge (engine : Engine World Handle) (items : List DesiredItem) (options : RunOptions) :
    Act World ConvergeError (List Change) := do
  requireSupported items
  engine.inSession .engine do
    let plan ← engine.plan items
    let transaction ← (engine.execute plan.intents options).mapFailure .engine
    return report transaction (items.map DesiredItem.name) plan.baseline

end Engine

end PackageProvider
