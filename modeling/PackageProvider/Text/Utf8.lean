set_option autoImplicit false

/-! Reading bytes as UTF-8 text where they may not all be valid. -/

namespace PackageProvider.Text

def replacement : Char := '\uFFFD'

def isContinuation (byte : UInt8) : Bool := 0x80 ≤ byte && byte ≤ 0xBF

/-- The bytes that may follow a leading byte; a narrower range than the continuation bytes
rules out overlong forms, surrogates and numbers beyond the last code point. -/
def mayFollow (leading byte : UInt8) : Bool :=
  if leading == 0xE0 then 0xA0 ≤ byte && byte ≤ 0xBF
  else if leading == 0xED then 0x80 ≤ byte && byte ≤ 0x9F
  else if leading == 0xF0 then 0x90 ≤ byte && byte ≤ 0xBF
  else if leading == 0xF4 then 0x80 ≤ byte && byte ≤ 0x8F
  else isContinuation byte

def announced (leading : UInt8) : Nat :=
  if leading < 0x80 then 1
  else if 0xC2 ≤ leading && leading ≤ 0xDF then 2
  else if 0xE0 ≤ leading && leading ≤ 0xEF then 3
  else if 0xF0 ≤ leading && leading ≤ 0xF4 then 4
  else 0

def codePoint (lowBits : Nat) (continuation : List UInt8) : Nat :=
  continuation.foldl (fun code byte => code * 64 + (byte.toNat - 0x80)) lowBits

def takeContinuation : Nat → List UInt8 → List UInt8
  | 0, _ | _, [] => []
  | count + 1, byte :: rest =>
      if isContinuation byte then byte :: takeContinuation count rest else []

def continuationOf (leading : UInt8) : List UInt8 → List UInt8
  | [] => []
  | byte :: rest =>
      if mayFollow leading byte then byte :: takeContinuation (announced leading - 2) rest else []

def readChar (leading : UInt8) (rest : List UInt8) : Char × Nat :=
  match announced leading with
  | 0 => (replacement, 0)
  | 1 => (Char.ofNat leading.toNat, 0)
  | length =>
      let continuation := continuationOf leading rest
      if continuation.length + 1 = length then
        (Char.ofNat (codePoint (leading.toNat % Nat.pow 2 (7 - length)) continuation), length - 1)
      else (replacement, continuation.length)

/-- Decodes bytes; each longest run that begins a character but does not complete it, and
each byte that begins none, becomes one replacement character. -/
def decodeUtf8 : List UInt8 → List Char
  | [] => []
  | leading :: rest =>
      let (char, taken) := readChar leading rest
      char :: decodeUtf8 (rest.drop taken)
termination_by bytes => bytes.length
decreasing_by simp only [List.length_cons, List.length_drop]; omega

end PackageProvider.Text
