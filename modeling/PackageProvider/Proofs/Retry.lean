import PackageProvider.Retry

set_option autoImplicit false

/-! What an attempt does, by its outcome: a success and an error that will not pass end the
run, and after an error that may pass the rest of the attempts are made. -/

namespace PackageProvider.Retry

variable {World Result : Type} {policy : RetryPolicy}
  {announce : RetryNotice → Act World EngineError Unit}
  {operation : Act World EngineError Result} {state after : Journaled World}

def notice (policy : RetryPolicy) (error : EngineError) (spare : Nat) : RetryNotice :=
  let number := policy.limit - (spare + 1)
  { number, limit := policy.limit, error, delay := policy.delayAfter (number - 1) }

theorem attempt_of_ok {value : Result} (ran : operation state = .ok value after) (spare : Nat) :
    attempt policy announce operation spare state = .ok value after := by
  cases spare with
  | zero => exact ran
  | succ spare => simp only [attempt, ran]

theorem attempt_of_lasting {error : EngineError} (ran : operation state = .error error after)
    (lasting : ¬ error.isRetryable = true) (spare : Nat) :
    attempt policy announce operation spare state = .error error after := by
  cases spare with
  | zero => exact ran
  | succ spare =>
      simp only [attempt, ran]
      rw [if_neg lasting]

theorem attempt_of_passing {error : EngineError} (ran : operation state = .error error after)
    (passing : error.isRetryable = true) (spare : Nat) :
    attempt policy announce operation (spare + 1) state =
      (announce (notice policy error spare) >>= fun _ =>
        attempt policy announce operation spare) after := by
  simp only [attempt, ran]
  rw [if_pos passing]
  rfl

end PackageProvider.Retry
