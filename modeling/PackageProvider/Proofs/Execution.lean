import PackageProvider.Convergence
import PackageProvider.Proofs.Act

set_option autoImplicit false

/-! Executing taken apart: what leads to a transaction does not depend on whether anything is
to be changed; what is done with the transaction does. -/

namespace PackageProvider

namespace Act

variable {World Handle Error Failure Result Next : Type}

theorem outcome_mapFailure (action : Act World Error Result) (rename : Error → Failure)
    (state : Journaled World) :
    ((action.mapFailure rename).outcome state).1 = (action.outcome state).1.mapError rename := by
  simp only [outcome, mapFailure]
  cases action state <;> rfl

theorem outcome_map (action : Act World Error Result) (make : Result → Next)
    (state : Journaled World) :
    ((action >>= fun value => pure (make value)).outcome state).1 =
      (action.outcome state).1.map make := by
  simp only [outcome, bind_apply]
  cases action state <;> rfl

theorem outcome_inSession (engine : Engine World Handle) (rename : EngineError → Error)
    (body : Act (World × Handle) Error Result) (state : Journaled World) :
    ((engine.inSession rename body).outcome state).1 =
      match engine.openHandle state with
      | .ok handle after =>
          (body.outcome ⟨(after.world, handle),
            after.journal ++ [⟨.debug, "Engine session opened"⟩]⟩).1
      | .error error _ => .error (rename error) := by
  simp only [outcome, Engine.inSession, Engine.openSession, bind_apply, note_apply, pure_apply]
  cases engine.openHandle state with
  | error error after => rfl
  | ok handle after =>
      dsimp only
      cases body ⟨(after.world, handle),
        after.journal ++ [⟨.debug, "Engine session opened"⟩]⟩ <;> rfl

/-- Whether two actions come to the same result from a state. What they leave may differ. -/
def Agree (first second : Act World Error Result) (state : Journaled World) : Prop :=
  (first.outcome state).1 = (second.outcome state).1

namespace Agree

theorem refl (action : Act World Error Result) (state : Journaled World) :
    Agree action action state := rfl

theorem bind {first : Act World Error Result} {next other : Result → Act World Error Next}
    {state : Journaled World}
    (follows : ∀ value after, first state = .ok value after →
      Agree (next value) (other value) after) :
    Agree (first >>= next) (first >>= other) state := by
  simp only [Agree, outcome, bind_apply] at follows ⊢
  cases ran : first state with
  | ok value after => exact follows value after ran
  | error error after => rfl

theorem map {first second : Act World Error Result} (make : Result → Next)
    {state : Journaled World} (agree : Agree first second state) :
    Agree (first >>= fun value => pure (make value)) (second >>= fun value => pure (make value))
      state := by
  rw [Agree, outcome_map, outcome_map, agree]

theorem mapFailure {first second : Act World Error Result} {rename : Error → Failure}
    {state : Journaled World} (agree : Agree first second state) :
    Agree (first.mapFailure rename) (second.mapFailure rename) state := by
  rw [Agree, outcome_mapFailure, outcome_mapFailure, agree]

theorem inSession {engine : Engine World Handle} {rename : EngineError → Error}
    {first second : Act (World × Handle) Error Result} {state : Journaled World}
    (agree : ∀ handle after, engine.openHandle state = .ok handle after →
      ∀ journal, Agree first second ⟨(after.world, handle), journal⟩) :
    Agree (engine.inSession rename first) (engine.inSession rename second) state := by
  rw [Agree, outcome_inSession, outcome_inSession]
  cases opened : engine.openHandle state with
  | ok handle after => exact agree handle after opened _
  | error error after => rfl

end Agree

end Act

namespace Engine

variable {World Handle : Type} (engine : Engine World Handle)

def gather (intents : List Intent) : Act (World × Handle) EngineError Transaction := do
  intents.forM fun intent => engine.submit intent.directive
  engine.resolve

def conclude (options : RunOptions) (transaction : Transaction) :
    Act (World × Handle) EngineError Transaction := do
  Act.note .info
    ("Resolved transaction: " ++ transaction.installs.length.repr ++ " to install, "
      ++ transaction.removals.length.repr ++ " to remove")
  if options.noop then
    Act.note .info "No-op mode, skipping download and apply"
  else if !transaction.isEmpty then
    engine.carryOut transaction options.retry
  return transaction

def perform (transaction : Transaction) : Act (World × Handle) EngineError Unit := do
  engine.apply transaction
  Act.note .info ("Applied " ++ transaction.size.repr ++ " package operation(s)")

theorem carryOut_of_no_installs {transaction : Transaction} (none : transaction.installs = [])
    (retry : RetryPolicy) : engine.carryOut transaction retry = engine.perform transaction := by
  unfold carryOut
  rw [none]
  rfl

theorem carryOut_of_installs {transaction : Transaction} (some : transaction.installs ≠ [])
    (retry : RetryPolicy) :
    engine.carryOut transaction retry =
      Retry.run retry Retry.warn (engine.download transaction.installs) >>= fun _ =>
        engine.perform transaction := by
  unfold carryOut
  rw [List.isEmpty_eq_false_iff.mpr some]
  rfl

theorem execute_nil (options : RunOptions) : engine.execute [] options = pure {} := rfl

theorem execute_cons (intent : Intent) (rest : List Intent) (options : RunOptions) :
    engine.execute (intent :: rest) options =
      engine.gather (intent :: rest) >>= engine.conclude options := by
  rw [gather, bind_assoc]
  rfl

end Engine

end PackageProvider
