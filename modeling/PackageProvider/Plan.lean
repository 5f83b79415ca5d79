import PackageProvider.Observation

set_option autoImplicit false

/-! Planning: from the wanted states and the installed builds to what is asked of the
engine. Planning only looks; nothing is submitted. -/

namespace PackageProvider

inductive ConvergeError where
  | notImplemented
  | engine (error : EngineError)
  deriving DecidableEq, Repr, Inhabited

def ConvergeError.message : ConvergeError → String
  | notImplemented => "not implemented"
  | engine error => error.message

inductive IntentKind where
  | install
  | remove
  | upgradeToLatest
  | upgradeToVersion (version : String)
  deriving DecidableEq, Repr, Inhabited

structure Intent where
  name : String
  kind : IntentKind
  spec : String
  prior : PackageState
  deriving DecidableEq, Repr, Inhabited

def Intent.directive (intent : Intent) : Directive :=
  let verb := match intent.kind with
    | .install => Verb.install
    | .remove => .remove
    | .upgradeToLatest | .upgradeToVersion _ => .upgrade
  ⟨verb, intent.spec⟩

structure Plan where
  intents : List Intent := []
  baseline : Baseline := {}
  deriving DecidableEq, Repr, Inhabited

namespace Plan

/-- The build that stands for a name: the newest, of those that the order does not tell
apart the first. -/
def newestNamed? (builds : List Build) (name : String) : Option Build :=
  (builds.filter fun build => build.name == name).foldl
    (fun newest build =>
      match newest with
      | none => some build
      | some kept => some (if build.parsedEvr.newer kept.parsedEvr then build else kept))
    none

def baselineOf (builds : List Build) (items : List DesiredItem) : Baseline :=
  items.foldl
    (fun baseline item =>
      baseline.record item.name
        (match newestNamed? builds item.name with
          | some build => .ofBuild build
          | none => .absent))
    {}

/-- What is to be done about an item whose package is in the state `prior`, if anything.
What is wanted present or absent is left alone where it is so; a version is asked for
whatever is installed, since the engine knows best what it has. -/
def intent? (item : DesiredItem) (prior : PackageState) : Option Intent :=
  let pinned (version : String) := item.name ++ "-" ++ version
  match item.ensure, prior.isAbsent with
  | .present, true => some ⟨item.name, .install, item.name, prior⟩
  | .absent, false => some ⟨item.name, .remove, item.name, prior⟩
  | .latest, false => some ⟨item.name, .upgradeToLatest, item.name, prior⟩
  | .latest, true => some ⟨item.name, .install, item.name, prior⟩
  | .version version, false =>
      some ⟨item.name, .upgradeToVersion version, pinned version, prior⟩
  | .version version, true => some ⟨item.name, .install, pinned version, prior⟩
  | .present, false | .absent, true | .held, _ => none

def remark (item : DesiredItem) (intent : Intent) : String :=
  item.name ++ ": " ++ intent.prior.text ++ " -> " ++ item.ensure.text ++ " (" ++ intent.spec ++ ")"

def intentsOf (baseline : Baseline) (items : List DesiredItem) : List (DesiredItem × Intent) :=
  items.filterMap fun item =>
    (intent? item (baseline.get item.name)).map fun intent => (item, intent)

end Plan

/-- Refuses all items together if one of them cannot be planned. -/
def requireSupported {World : Type} (items : List DesiredItem) : Act World ConvergeError Unit := do
  if let some item := items.find? fun item => !item.ensure.isSupported then
    Act.note .warn ("Cannot plan ensure=" ++ item.ensure.text ++ " for " ++ item.name)
    throw .notImplemented

namespace Engine

variable {World Handle : Type}

def plan (engine : Engine World Handle) (items : List DesiredItem) :
    Act (World × Handle) ConvergeError Plan := do
  requireSupported items
  let builds ← (engine.observe (items.map DesiredItem.name)).mapFailure .engine
  let baseline := Plan.baselineOf builds items
  let intents := Plan.intentsOf baseline items
  intents.forM fun (item, intent) => Act.note .debug (Plan.remark item intent)
  Act.note .info
    ("Planned " ++ intents.length.repr ++ " intent(s) for " ++ items.length.repr
      ++ " requested package(s)")
  return { intents := intents.map (·.2), baseline }

end Engine

end PackageProvider
