import PackageProvider.Engine
import PackageProvider.Memory.Resolution

set_option autoImplicit false

/-! The engine over a database held in memory. All handles act on the one database; a goal
belongs to its handle and outlives its resolution. -/

namespace PackageProvider.Memory

structure Handle where
  goal : List Directive := []
  isClosed : Bool := false
  deriving DecidableEq, Repr, Inhabited

def requireOpen : Act (Database × Handle) EngineError Unit := do
  if (← Act.readWorld).2.isClosed then throw .handleClosed

def changeDatabase (change : Database → Database) : Act (Database × Handle) EngineError Unit :=
  Act.changeWorld fun (database, handle) => (change database, handle)

def requireNoFailure (point : FailurePoint) : Act (Database × Handle) EngineError Unit := do
  let (tripped, failures) := (← Act.readWorld).1.failures.trip point
  changeDatabase fun database => { database with failures }
  if let some error := tripped then throw error

def count (raise : CallCounts → CallCounts) : Act (Database × Handle) EngineError Unit :=
  changeDatabase fun database => { database with counts := raise database.counts }

def openHandle : Act Database EngineError Handle := do
  let (tripped, failures) := (← Act.readWorld).failures.trip .opening
  Act.changeWorld fun database => { database with failures }
  if let some error := tripped then throw error
  Act.changeWorld fun database =>
    { database with counts := { database.counts with opened := database.counts.opened + 1 } }
  return {}

def query (builds : Database → List Build) (names : List String) :
    Act (Database × Handle) EngineError (List Build) := do
  requireOpen
  requireNoFailure .query
  count fun counts => { counts with queries := counts.queries + 1 }
  return Database.named names (builds (← Act.readWorld).1)

def submit (directive : Directive) : Act (Database × Handle) EngineError Unit := do
  requireOpen
  count fun counts => { counts with submitted := counts.submitted + 1 }
  Act.changeWorld fun (database, handle) =>
    (database, { handle with goal := handle.goal ++ [directive] })

def resolve : Act (Database × Handle) EngineError Transaction := do
  requireOpen
  requireNoFailure .resolve
  count fun counts => { counts with resolved := counts.resolved + 1 }
  let (database, handle) ← Act.readWorld
  let (remarks, result) := database.settle {} handle.goal
  remarks.forM (Act.note .debug)
  match result with
  | .ok transaction => return transaction
  | .error error => throw error

/-- A download fails at the first build that is not on offer. -/
def download (builds : List Build) : Act (Database × Handle) EngineError Unit := do
  requireOpen
  requireNoFailure .download
  count fun counts => { counts with downloads := counts.downloads + 1 }
  let database := (← Act.readWorld).1
  if let some missing := builds.find? fun build => !database.available.contains build then
    throw (.notFound missing.nevra)

def apply (transaction : Transaction) : Act (Database × Handle) EngineError Unit := do
  requireOpen
  requireNoFailure .apply
  count fun counts => { counts with applies := counts.applies + 1 }
  changeDatabase fun database => database.applied transaction

def close (state : Journaled (Database × Handle)) : Journaled (Database × Handle) :=
  let (database, handle) := state.world
  if handle.isClosed then state
  else
    let counts := { database.counts with closed := database.counts.closed + 1 }
    { state with world := ({ database with counts }, { goal := [], isClosed := true }) }

def engine : Engine Database Handle where
  openHandle
  installed := query Database.installed
  available := query Database.available
  submit
  resolve
  download
  apply
  close

end PackageProvider.Memory
