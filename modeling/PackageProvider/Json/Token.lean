import PackageProvider.Json.Number

set_option autoImplicit false

/-! The tokens of a JSON text. -/

namespace PackageProvider.Json

inductive Token where
  | openObject
  | closeObject
  | openArray
  | closeArray
  | comma
  | colon
  | string (text : String)
  | atom (value : Value)
  deriving Repr, Inhabited

namespace Token

def isSpace (c : Char) : Bool := c == ' ' || c == '\n' || c == '\t' || c == '\r'

def hexDigit? (c : Char) : Option Nat :=
  if '0' ≤ c && c ≤ '9' then some (c.toNat - '0'.toNat)
  else if 'a' ≤ c && c ≤ 'f' then some (c.toNat - 'a'.toNat + 10)
  else if 'A' ≤ c && c ≤ 'F' then some (c.toNat - 'A'.toNat + 10)
  else none

def unit? (a b c d : Char) : Option Nat := do
  let a ← hexDigit? a
  let b ← hexDigit? b
  let c ← hexDigit? c
  let d ← hexDigit? d
  return ((a * 16 + b) * 16 + c) * 16 + d

def escaped? : Char → Option Char
  | '"' => some '"'
  | '\\' => some '\\'
  | '/' => some '/'
  | 'b' => some '\x08'
  | 'f' => some '\x0c'
  | 'n' => some '\n'
  | 'r' => some '\r'
  | 't' => some '\t'
  | _ => none

def isLeading (unit : Nat) : Bool := 0xD800 ≤ unit && unit ≤ 0xDBFF

def isTrailing (unit : Nat) : Bool := 0xDC00 ≤ unit && unit ≤ 0xDFFF

def paired (leading trailing : Nat) : Char :=
  Char.ofNat (0x10000 + (leading - 0xD800) * 0x400 + (trailing - 0xDC00))

/-- Reads the inside of a string up to its closing quote. Control characters must be
escaped, and units that are half of a pair must come in pairs. -/
def readString (chars : List Char) : Option (List Char × List Char) :=
  match chars with
  | [] => none
  | '"' :: rest => some ([], rest)
  | '\\' :: 'u' :: a :: b :: c :: d :: rest =>
      match unit? a b c d with
      | none => none
      | some unit =>
          if isTrailing unit then none
          else if isLeading unit then
            match rest with
            | '\\' :: 'u' :: e :: f :: g :: h :: rest =>
                match unit? e f g h with
                | none => none
                | some trailing =>
                    if isTrailing trailing then
                      (readString rest).map fun (text, rest) => (paired unit trailing :: text, rest)
                    else none
            | _ => none
          else (readString rest).map fun (text, rest) => (Char.ofNat unit :: text, rest)
  | '\\' :: c :: rest =>
      match escaped? c with
      | none => none
      | some c => (readString rest).map fun (text, rest) => (c :: text, rest)
  | c :: rest =>
      if c == '\\' || c.toNat < 0x20 then none
      else (readString rest).map fun (text, rest) => (c :: text, rest)

def digitsOf (chars : List Char) : List Nat := chars.map fun c => c.toNat - '0'.toNat

def readDigits (chars : List Char) : List Nat × List Char :=
  (digitsOf (chars.takeWhile Char.isDigit), chars.dropWhile Char.isDigit)

def readFraction (chars : List Char) : Option (Option (List Nat) × List Char) :=
  match chars with
  | '.' :: rest =>
      let (digits, rest) := readDigits rest
      if digits.isEmpty then none else some (some digits, rest)
  | _ => some (none, chars)

def readExponent (chars : List Char) : Option (Option (Bool × List Nat) × List Char) :=
  match chars with
  | [] => some (none, chars)
  | mark :: rest =>
      if mark == 'e' || mark == 'E' then
        let (falls, rest) := match rest with
          | '+' :: rest => (false, rest)
          | '-' :: rest => (true, rest)
          | _ => (false, rest)
        let (digits, rest) := readDigits rest
        if digits.isEmpty then none else some (some (falls, digits), rest)
      else some (none, chars)

def readNumber (chars : List Char) : Option (Number × List Char) := do
  let (negative, rest) := match chars with
    | '-' :: rest => (true, rest)
    | _ => (false, chars)
  let (whole, rest) := readDigits rest
  if whole.isEmpty || (whole.length != 1 && whole.head? == some 0) then none
  let (fraction, rest) ← readFraction rest
  let (exponent, rest) ← readExponent rest
  let number ← Number.ofNumeral? { negative, whole, fraction, exponent }
  return (number, rest)

def read (chars : List Char) : Option (Token × List Char) :=
  match chars with
  | '\x7b' :: rest => some (openObject, rest)
  | '\x7d' :: rest => some (closeObject, rest)
  | '[' :: rest => some (openArray, rest)
  | ']' :: rest => some (closeArray, rest)
  | ',' :: rest => some (comma, rest)
  | ':' :: rest => some (colon, rest)
  | '"' :: rest => (readString rest).map fun (chars, rest) => (string (String.ofList chars), rest)
  | 't' :: 'r' :: 'u' :: 'e' :: rest => some (atom (.bool true), rest)
  | 'f' :: 'a' :: 'l' :: 's' :: 'e' :: rest => some (atom (.bool false), rest)
  | 'n' :: 'u' :: 'l' :: 'l' :: rest => some (atom .null, rest)
  | _ => (readNumber chars).map fun (number, rest) => (atom (.number number), rest)

/-- Reads tokens as long as there are characters; `fuel` bounds their number, and a text
has no more tokens than characters. -/
def readAll : Nat → List Char → Option (List Token)
  | fuel, chars =>
      match chars.dropWhile isSpace with
      | [] => some []
      | rest =>
          match fuel with
          | 0 => none
          | fuel + 1 => do
              let (token, rest) ← read rest
              let tokens ← readAll fuel rest
              return token :: tokens

def tokens (chars : List Char) : Option (List Token) := readAll chars.length chars

end Token

end PackageProvider.Json
