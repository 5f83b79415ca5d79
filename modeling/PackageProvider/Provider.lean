import PackageProvider.Arguments
import PackageProvider.Capabilities
import PackageProvider.Convergence
import PackageProvider.Request
import PackageProvider.Response

set_option autoImplicit false

/-! The provider: answers a request with one envelope. What goes wrong in the engine is
reported in the envelope; only a request that cannot be read, or an output that cannot be
written, is an error of the provider itself. -/

namespace PackageProvider

inductive Caller where
  | known (privileged : Bool)
  | user (effectiveUid : Nat)
  deriving DecidableEq, Repr, Inhabited

/-- Whether the caller may change packages. Only root may, and asking for the user is noted. -/
def Caller.checkPrivilege {World Error : Type} : Caller → Act World Error Bool
  | known privileged => return privileged
  | user effectiveUid => do
      Act.note .debug ("Effective uid: " ++ effectiveUid.repr)
      return effectiveUid == 0

inductive WriteError where
  | capabilities
  | response
  deriving DecidableEq, Repr, Inhabited

def WriteError.message : WriteError → String
  | capabilities => "Failed to write metadata"
  | response => "Failed to write response"

inductive ProviderError where
  | input (error : InputError)
  | write (error : WriteError)
  deriving Repr, Inhabited

def ProviderError.message : ProviderError → String
  | input error => error.message
  | write error => error.message

def rootRequired : String := "only the root user can make package changes"

structure Provider (World Handle : Type) where
  engine : Engine World Handle
  caller : Caller
  retry : RetryPolicy

def describe {World : Type} (accepts : Bool) : Act World WriteError String :=
  if accepts then return capabilities else throw .capabilities

namespace Provider

variable {World Handle : Type}

def get (provider : Provider World Handle) (request : GetRequest) :
    Act World ProviderError Response := do
  match ← (provider.engine.currentState request.names).settled with
  | .ok inventory =>
      Act.note .info ("Found " ++ inventory.size.repr ++ " package(s)")
      return .ofInventory inventory
  | .error error =>
      Act.note .error ("get failed: " ++ error.message)
      return .failure error.message

def set (provider : Provider World Handle) (request : SetRequest) :
    Act World ProviderError Response := do
  if !(← provider.caller.checkPrivilege) then return .failure rootRequired
  let options : RunOptions := { noop := request.noop, retry := provider.retry }
  match ← (provider.engine.converge request.items options).settled with
  | .ok changes =>
      Act.note .info (changes.length.repr ++ " change(s)")
      return .changes changes
  | .error error =>
      Act.note .error ("set failed: " ++ error.message)
      return .failure error.message

def request {Request : Type} (shape : Json.Shape Request) (input : ByteArray) :
    Act World ProviderError Request :=
  match readRequest shape input with
  | .ok request => return request
  | .error error => throw (.input error)

def write (response : Response) (accepts : Bool) : Act World ProviderError String :=
  if accepts then return response.line else throw (.write .response)

/-- Does what is asked and gives what is to be written. `accepts` says whether the output
will take it; an output that refuses is noticed only when all else is done. -/
def handle (provider : Provider World Handle) (action : Action) (input : ByteArray)
    (accepts : Bool) : Act World ProviderError String :=
  match action with
  | .describe => (describe accepts).mapFailure .write
  | .get => do
      let response ← provider.get (← request GetRequest.shape input)
      write response accepts
  | .set => do
      let response ← provider.set (← request SetRequest.shape input)
      write response accepts

end Provider

end PackageProvider
