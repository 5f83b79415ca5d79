set_option autoImplicit false

/-! Text for terminals. Control sequences tell a terminal how to show what follows; an output
that is no terminal gets the text without them, and without control characters other than
those for blanks and line ends. -/

namespace PackageProvider.Text

def bold (text : String) : String := "\x1b[1m" ++ text ++ "\x1b[0m"

/-- What a terminal makes of the next character. -/
inductive Sequence where
  | text
  | escape
  /-- The rest of a short sequence. -/
  | designation
  | control
  | device
  | deviceParameters
  | deviceDesignation
  | string
  /-- A string for the terminal itself, such as a title. -/
  | command
  deriving DecidableEq, Repr, Inhabited

namespace Sequence

/-- A byte that ends strings, also inside of a longer character. -/
def stringTerminator : UInt8 := 0x9C

def next (sequence : Sequence) (c : Char) : Sequence :=
  match sequence with
  | text => text
  | escape =>
      if c = '[' then control
      else if c = ']' then command
      else if c = 'P' then device
      else if c = 'X' ∨ c = '^' ∨ c = '_' then string
      else if ' ' ≤ c ∧ c ≤ '/' then designation
      else if '0' ≤ c ∧ c ≤ '~' then text
      else escape
  | designation => if '0' ≤ c ∧ c ≤ '~' then text else designation
  | control => if '@' ≤ c ∧ c ≤ '~' then text else control
  | device =>
      if ' ' ≤ c ∧ c ≤ '/' then deviceDesignation
      else if '0' ≤ c ∧ c ≤ '?' then deviceParameters
      else if '@' ≤ c ∧ c ≤ '~' then string
      else device
  | deviceParameters =>
      if ' ' ≤ c ∧ c ≤ '/' then deviceDesignation
      else if '<' ≤ c ∧ c ≤ '~' then string
      else deviceParameters
  | deviceDesignation => if '0' ≤ c ∧ c ≤ '~' then string else deviceDesignation
  | string => if (String.utf8EncodeChar c).contains stringTerminator then text else string
  | command => if c = '\x07' then text else command

end Sequence

def isBlankControl (c : Char) : Bool := c == '\t' || c == '\n' || c == '\x0c' || c == '\r'

def isVisible (c : Char) : Bool := (' ' ≤ c && c != '\x7f') || isBlankControl c

def isShownWithin (sequence : Sequence) (c : Char) : Bool :=
  match sequence with
  | .text => isVisible c
  | .escape | .designation | .control => isBlankControl c
  | .device | .deviceParameters | .deviceDesignation | .string | .command => false

/-- What is shown of a text inside of a sequence. A blank that is shown there interrupts the
sequence up to the next control character, and characters outside ASCII end it. -/
def shownFrom (sequence : Sequence) (interrupted : Bool) : List Char → List Char
  | [] => []
  | c :: rest =>
      if c = '\x1b' then shownFrom .escape false rest
      else if c = '\x18' ∨ c = '\x1a' then shownFrom .text false rest
      else if isShownWithin (if interrupted then .text else sequence) c then
        c :: shownFrom (if '\x7f' < c then .text else sequence) true rest
      else shownFrom (if interrupted then sequence else sequence.next c) false rest

def shown (text : List Char) : List Char := shownFrom .text false text

end PackageProvider.Text
