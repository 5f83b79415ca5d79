import PackageProvider.Decimal.Layout
import PackageProvider.Duration
import PackageProvider.EngineError
import PackageProvider.Journal

set_option autoImplicit false

/-! Trying again after errors that may pass, a bounded number of times, with a delay that
grows by a factor from one attempt to the next. -/

namespace PackageProvider

structure RetryPolicy where
  /-- Attempts in all; no attempt at all counts as one. -/
  maxAttempts : UInt32 := 3
  baseDelay : Duration := .ofSeconds 5
  growth : Float := 2.0
  maxDelay : Duration := .ofSeconds 120

namespace RetryPolicy

def standard : RetryPolicy := {}

def once : RetryPolicy := { maxAttempts := 1 }

def limit (policy : RetryPolicy) : Nat := max policy.maxAttempts.toNat 1

def largestExponent : Nat := Nat.pow 2 31 - 1

/-- A product of `exponent` equal factors by repeated squaring, times `product`. -/
def power (factor : Float) (exponent : Nat) (product : Float) : Float :=
  if exponent = 0 then product
  else
    let product := if exponent % 2 = 1 then product * factor else product
    power (factor * factor) (exponent / 2) product
termination_by exponent

/-- The delay after failure number `failed`, counted from zero. Where the arithmetic leaves
the range of durations it is the longest delay. -/
def delayAfter (policy : RetryPolicy) (failed : Nat) : Duration :=
  let seconds := policy.baseDelay.toFloat * power policy.growth (min failed largestExponent) 1.0
  match Duration.ofFloat? seconds with
  | some delay => delay.min policy.maxDelay
  | none => policy.maxDelay

end RetryPolicy

structure RetryNotice where
  number : Nat
  limit : Nat
  error : EngineError
  delay : Duration

namespace RetryNotice

def message (notice : RetryNotice) : String :=
  "Attempt " ++ notice.number.repr ++ "/" ++ notice.limit.repr ++ " failed: "
    ++ notice.error.message ++ ". Retrying in " ++ Decimal.fixed 1 notice.delay.toFloat ++ "s"

end RetryNotice

namespace Retry

variable {World Result : Type}

def warn (notice : RetryNotice) : Act World EngineError Unit := Act.note .warn notice.message

/-- Runs `operation` with `spare` attempts left after this one. An error ends the run if
it will not pass by itself or if no attempt is left; otherwise the retry is announced. -/
def attempt (policy : RetryPolicy) (announce : RetryNotice → Act World EngineError Unit)
    (operation : Act World EngineError Result) : Nat → Act World EngineError Result
  | 0 => operation
  | spare + 1 => fun state =>
      match operation state with
      | .ok result state => .ok result state
      | .error error state =>
          if error.isRetryable then
            let number := policy.limit - (spare + 1)
            let notice : RetryNotice :=
              { number, limit := policy.limit, error, delay := policy.delayAfter (number - 1) }
            (do announce notice; attempt policy announce operation spare) state
          else .error error state

def run (policy : RetryPolicy) (announce : RetryNotice → Act World EngineError Unit)
    (operation : Act World EngineError Result) : Act World EngineError Result :=
  attempt policy announce operation (policy.limit - 1)

end Retry

end PackageProvider
