import PackageProvider.Dnf.Complaint
import PackageProvider.Dnf.Host
import PackageProvider.Dnf.QueryOutput
import PackageProvider.Dnf.Script
import PackageProvider.Dnf.TransactionTable
import PackageProvider.Engine

set_option autoImplicit false

/-! The engine that runs dnf. Queries are runs of `dnf repoquery`. A goal is kept with its
handle and handed to `dnf shell` as a script three times over: answered with no to learn
what it amounts to, for downloading alone, and for good. -/

namespace PackageProvider.Dnf

structure Options where
  binary : String := "dnf"
  extraArguments : List String := []
  cacheOnly : Bool := false
  deriving DecidableEq, Repr, Inhabited

structure Handle where
  program : String
  goal : List Directive := []
  isClosed : Bool := false
  deriving DecidableEq, Repr, Inhabited

def Options.arguments (options : Options) (arguments : List String) : List String :=
  (if options.cacheOnly then ["-C"] else []) ++ options.extraArguments ++ arguments

variable {World : Type}

def openedHandle : Act (World × Handle) EngineError Handle := do
  let (_, handle) ← Act.readWorld
  if handle.isClosed then throw .handleClosed
  return handle

/-- Runs the program of a handle. No argument of a program can hold a NUL character. -/
def launch (host : Host World) (options : Options) (arguments : List String)
    (script : Option String) : Act (World × Handle) EngineError Output := do
  let (world, handle) ← Act.readWorld
  let invocation : Invocation :=
    { program := handle.program, arguments := options.arguments arguments, script }
  let message := "failed to execute " ++ handle.program
  if invocation.arguments.any fun argument => argument.toList.contains '\x00' then
    throw (.commandFailed message "nul byte found in provided data")
  let (result, world) := host.launch invocation world
  Act.changeWorld fun (_, handle) => (world, handle)
  match result with
  | .ok output => return output
  | .error reason => throw (.commandFailed message reason)

def query (host : Host World) (options : Options) (scope : String) (names : List String) :
    Act (World × Handle) EngineError (List Build) := do
  let _ ← openedHandle
  let arguments := ["-q", "repoquery", scope, "--queryformat", queryFormat, "--"] ++ names
  let output ← launch host options arguments none
  if !output.isSuccess then throw (.ofComplaint (String.ofList output.errText) none)
  match readQueryOutput output.outText with
  | .ok builds => return builds
  | .error error => throw error

def save (host : Host World) (text : String) : Act (World × Handle) EngineError Unit := do
  let (world, _) ← Act.readWorld
  let (result, world) := host.save text world
  Act.changeWorld fun (_, handle) => (world, handle)
  match result with
  | .ok () => return ()
  | .error reason => throw (.io reason)

def runGoal (host : Host World) (options : Options) (flags : List String) :
    Act (World × Handle) EngineError Output := do
  let (_, handle) ← Act.readWorld
  let text := script handle.goal
  save host text
  launch host options (flags ++ ["shell"]) (some text)

def runGoalChecked (host : Host World) (options : Options) (flags : List String) :
    Act (World × Handle) EngineError Unit := do
  let output ← runGoal host options flags
  if let some error := goalFailure? output.errText then throw error
  if !output.isSuccess then throw (.ofComplaint (String.ofList output.errText) none)

def openHandle (host : Host World) (options : Options) : Act World EngineError Handle := do
  match host.find? options.binary with
  | none => throw (.engineMissing options.binary)
  | some program =>
      Act.note .debug ("Using dnf at " ++ program)
      return { program }

def submit (directive : Directive) : Act (World × Handle) EngineError Unit := do
  let _ ← openedHandle
  Act.note .debug ("Goal: " ++ toString directive)
  Act.changeWorld fun (world, handle) =>
    (world, { handle with goal := handle.goal ++ [directive] })

/-- Resolves the goal by answering dnf with no. The exit code says nothing then: the table,
or the message that there is nothing to do, decides. -/
def resolve (host : Host World) (options : Options) :
    Act (World × Handle) EngineError Transaction := do
  let handle ← openedHandle
  if handle.goal.isEmpty then return {}
  let output ← runGoal host options ["--assumeno"]
  if let some error := goalFailure? output.errText then throw error
  match readTransactionTable output.outText with
  | some transaction => return transaction
  | none =>
      if Text.occurs "Nothing to do".toList output.outText then return {}
      else throw (.ofComplaint (String.ofList output.errText) none)

def download (host : Host World) (options : Options) (builds : List Build) :
    Act (World × Handle) EngineError Unit := do
  let _ ← openedHandle
  if !builds.isEmpty then
    Act.note .info ("Downloading " ++ builds.length.repr ++ " package(s)")
    runGoalChecked host options ["-y", "--downloadonly"]

def apply (host : Host World) (options : Options) (transaction : Transaction) :
    Act (World × Handle) EngineError Unit := do
  let _ ← openedHandle
  if !transaction.isEmpty then
    Act.note .info
      ("Applying transaction with " ++ transaction.size.repr ++ " operation(s)")
    runGoalChecked host options ["-y"]

def close (state : Journaled (World × Handle)) : Journaled (World × Handle) :=
  let (world, handle) := state.world
  { state with world := (world, { handle with goal := [], isClosed := true }) }

def engine (host : Host World) (options : Options) : Engine World Handle where
  openHandle := openHandle host options
  installed := query host options "--installed"
  available := query host options "--available"
  submit := submit
  resolve := resolve host options
  download := download host options
  apply := apply host options
  close := close

end PackageProvider.Dnf
