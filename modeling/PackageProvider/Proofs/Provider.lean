import PackageProvider.Proofs.Act
import PackageProvider.Proofs.Response
import PackageProvider.Provider

set_option autoImplicit false

/-! How the provider answers: a request that cannot be read and a caller who may not change
packages never get to the engine, and everything else gets a response to what the engine did. -/

namespace PackageProvider

variable {World Handle Error Result : Type}

def Caller.isPrivileged : Caller → Bool
  | known privileged => privileged
  | user effectiveUid => effectiveUid == 0

def Caller.remarks : Caller → List JournalEntry
  | known _ => []
  | user effectiveUid => [⟨.debug, "Effective uid: " ++ effectiveUid.repr⟩]

theorem Caller.checkPrivilege_apply (caller : Caller) (state : Journaled World) :
    (caller.checkPrivilege : Act World Error Bool) state =
      .ok caller.isPrivileged { state with journal := state.journal ++ caller.remarks } := by
  cases caller with
  | known privileged => simp only [checkPrivilege, Act.pure_apply, remarks, List.append_nil]; rfl
  | user effectiveUid => rfl

/-- The response to an outcome: a failure if there is an error, and only then. -/
def Response.ofOutcome (shown : Result → Response) (message : Error → String) :
    Except Error Result → Response
  | .ok result => shown result
  | .error error => .failure (message error)

theorem Response.isFailureLine_ofOutcome {shown : Result → Response}
    (successes : ∀ result message, shown result ≠ .failure message) (message : Error → String)
    (outcome : Except Error Result) :
    IsFailureLine (Response.ofOutcome shown message outcome).line ↔
      ∃ error, outcome = .error error := by
  rw [isFailureLine_iff]
  cases outcome with
  | ok result =>
      constructor
      · rintro ⟨message, same⟩
        exact (successes result message same).elim
      · rintro ⟨error, impossible⟩
        cases impossible
  | error error => exact ⟨fun _ => ⟨error, rfl⟩, fun _ => ⟨message error, rfl⟩⟩

namespace Provider

variable {provider : Provider World Handle} {input : ByteArray} {state : Journaled World}

theorem handle_get_of_unreadable {error : InputError}
    (unreadable : readRequest GetRequest.shape input = .error error) :
    provider.handle .get input true state = .error (.input error) state := by
  simp only [handle, request, unreadable, Act.bind_apply, Act.throw_apply]

theorem handle_set_of_unreadable {error : InputError}
    (unreadable : readRequest SetRequest.shape input = .error error) :
    provider.handle .set input true state = .error (.input error) state := by
  simp only [handle, request, unreadable, Act.bind_apply, Act.throw_apply]

theorem handle_set_of_unprivileged {request : SetRequest}
    (reads : readRequest SetRequest.shape input = .ok request)
    (unprivileged : provider.caller.isPrivileged = false) :
    provider.handle .set input true state =
      .ok (Response.failure rootRequired).line
        { state with journal := state.journal ++ provider.caller.remarks } := by
  simp only [handle, Provider.request, reads, Act.bind_apply, Act.pure_apply, set,
    Caller.checkPrivilege_apply, unprivileged]
  rfl

theorem handle_get_of_read {request : GetRequest}
    (reads : readRequest GetRequest.shape input = .ok request) :
    let ran := (provider.engine.currentState request.names).outcome state
    let answered := (provider.handle .get input true).outcome state
    answered.1 = .ok (Response.ofOutcome .ofInventory EngineError.message ran.1).line ∧
      answered.2.world = ran.2.world := by
  simp only [Act.outcome, handle, Provider.request, reads, Act.bind_apply, Act.pure_apply, get,
    Act.settled]
  cases provider.engine.currentState request.names state with
  | ok inventory after => exact ⟨rfl, rfl⟩
  | error error after => exact ⟨rfl, rfl⟩

theorem handle_set_of_read {request : SetRequest}
    (reads : readRequest SetRequest.shape input = .ok request)
    (privileged : provider.caller.isPrivileged = true) :
    let options : RunOptions := { noop := request.noop, retry := provider.retry }
    let ran := (provider.engine.converge request.items options).outcome
      { state with journal := state.journal ++ provider.caller.remarks }
    let answered := (provider.handle .set input true).outcome state
    answered.1 = .ok (Response.ofOutcome .changes ConvergeError.message ran.1).line ∧
      answered.2.world = ran.2.world := by
  simp only [Act.outcome, handle, Provider.request, reads, Act.bind_apply, Act.pure_apply, set,
    Caller.checkPrivilege_apply, privileged, Act.settled, Bool.not_true, Bool.false_eq_true,
    if_false]
  cases provider.engine.converge request.items { noop := request.noop, retry := provider.retry }
      { state with journal := state.journal ++ provider.caller.remarks } with
  | ok changes after => exact ⟨rfl, rfl⟩
  | error error after => exact ⟨rfl, rfl⟩

end Provider

end PackageProvider
