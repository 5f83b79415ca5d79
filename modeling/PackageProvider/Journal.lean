set_option autoImplicit false

/-! Acting on a world. An action may fail, may change the world, and may write to the
journal; a failed action keeps what it changed and wrote before it failed. -/

namespace PackageProvider

inductive Level where
  | error
  | warn
  | info
  | debug
  deriving DecidableEq, Repr, Inhabited

namespace Level

def all : List Level := [.error, .warn, .info, .debug]

def word : Level → String
  | .error => "ERROR"
  | .warn => "WARN"
  | .info => "INFO"
  | .debug => "DEBUG"

def rank : Level → Nat
  | .error => 0
  | .warn => 1
  | .info => 2
  | .debug => 3

def isShownAt (level threshold : Level) : Bool := level.rank ≤ threshold.rank

end Level

structure JournalEntry where
  level : Level
  text : String
  deriving DecidableEq, Repr, Inhabited

instance : ToString JournalEntry := ⟨fun entry => entry.level.word ++ " " ++ entry.text⟩

/-- A world and what has been written about it, the oldest entry first. -/
structure Journaled (World : Type) where
  world : World
  journal : List JournalEntry := []
  deriving Repr

abbrev Act (World Error Result : Type) := EStateM Error (Journaled World) Result

namespace Act

variable {World Error Failure Result : Type}

def note (level : Level) (text : String) : Act World Error Unit := fun state =>
  .ok () { state with journal := state.journal ++ [⟨level, text⟩] }

def readWorld : Act World Error World := fun state => .ok state.world state

def changeWorld (change : World → World) : Act World Error Unit := fun state =>
  .ok () { state with world := change state.world }

def mapFailure (rename : Error → Failure) (action : Act World Error Result) :
    Act World Failure Result := fun state =>
  match action state with
  | .ok result state => .ok result state
  | .error error state => .error (rename error) state

def settled (action : Act World Error Result) :
    Act World Failure (Except Error Result) := fun state =>
  match action state with
  | .ok result state => .ok (.ok result) state
  | .error error state => .ok (.error error) state

def outcome (action : Act World Error Result) (state : Journaled World) :
    Except Error Result × Journaled World :=
  match action state with
  | .ok result state => (.ok result, state)
  | .error error state => (.error error, state)

end Act

end PackageProvider
