import PackageProvider.Decimal.Binary
import PackageProvider.Decimal.Rounding

set_option autoImplicit false

/-! Lengths of time: whole nanoseconds, fewer than 2^64 seconds of them. -/

namespace PackageProvider

def nanosPerSecond : Nat := 1000000000

/-- The nanoseconds that no duration reaches. -/
def endOfTime : Nat := UInt64.size * nanosPerSecond

structure Duration where
  nanoseconds : Nat
  inRange : nanoseconds < endOfTime := by decide
  deriving DecidableEq, Repr

namespace Duration

def zero : Duration := { nanoseconds := 0 }

def ofNanoseconds (nanoseconds : Nat) : Duration :=
  if inRange : nanoseconds < endOfTime then ⟨nanoseconds, inRange⟩
  else { nanoseconds := endOfTime - 1 }

theorem seconds_inRange (seconds : UInt64) : seconds.toNat * nanosPerSecond < endOfTime :=
  Nat.mul_lt_mul_of_pos_right seconds.toNat_lt_size (by decide)

def ofSeconds (seconds : UInt64) : Duration :=
  ⟨seconds.toNat * nanosPerSecond, seconds_inRange seconds⟩

def seconds (duration : Duration) : Nat := duration.nanoseconds / nanosPerSecond

def subsecond (duration : Duration) : Nat := duration.nanoseconds % nanosPerSecond

def min (first second : Duration) : Duration :=
  if first.nanoseconds ≤ second.nanoseconds then first else second

def toFloat (duration : Duration) : Float :=
  Float.ofNat duration.seconds + Float.ofNat duration.subsecond / Float.ofNat nanosPerSecond

/-- A number of seconds rounded to the nearest nanosecond, to the even one halfway. There
is none for a negative number, for no number, and from 2^64 seconds on. -/
def ofFloat? (x : Float) : Option Duration :=
  match Decimal.read x with
  | .finite negative significand exponent =>
      let (up, down) := Decimal.powerQuotient 2 exponent
      let nanoseconds := Decimal.roundHalfEven (significand * up * nanosPerSecond) down
      if negative ∧ significand ≠ 0 then none
      else if inRange : nanoseconds < endOfTime then some ⟨nanoseconds, inRange⟩
      else none
  | .infinite _ | .notANumber => none

end Duration

end PackageProvider
