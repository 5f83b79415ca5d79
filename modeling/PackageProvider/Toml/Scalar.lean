import PackageProvider.Json.Token
import PackageProvider.Text.Pieces

set_option autoImplicit false

/-! The scalars of TOML: strings in four kinds of quotes, numbers, words, dates and times. -/

namespace PackageProvider.Toml

open Json (Value)

abbrev Parser (Result : Type) := List Char → Option (Result × List Char)

def isControl (c : Char) : Bool := (c.toNat < 0x20 && c != '\t') || c.toNat == 0x7F

def newline? : List Char → Option (List Char)
  | '\n' :: rest => some rest
  | '\r' :: '\n' :: rest => some rest
  | _ => none

def isIndent (c : Char) : Bool := c == ' ' || c == '\t'

def skipIndent (chars : List Char) : List Char := chars.dropWhile isIndent

def skipBlankLines : Nat → List Char → List Char
  | 0, chars => chars
  | fuel + 1, chars =>
      match newline? (skipIndent chars) with
      | some rest => skipBlankLines fuel rest
      | none => skipIndent chars

namespace Strings

def codePoint? (count : Nat) (chars : List Char) : Option (Char × List Char) := do
  let digits := chars.take count
  if digits.length != count then none
  let values ← digits.mapM Json.Token.hexDigit?
  let code := values.foldl (fun code digit => code * 16 + digit) 0
  if code < 0xD800 ∨ (0xDFFF < code ∧ code < 0x110000) then
    return (Char.ofNat code, chars.drop count)
  else none

def escape? : Parser Char
  | 'b' :: rest => some ('\x08', rest)
  | 't' :: rest => some ('\t', rest)
  | 'n' :: rest => some ('\n', rest)
  | 'f' :: rest => some ('\x0c', rest)
  | 'r' :: rest => some ('\r', rest)
  | 'e' :: rest => some ('\x1b', rest)
  | '"' :: rest => some ('"', rest)
  | '\\' :: rest => some ('\\', rest)
  | 'x' :: rest => codePoint? 2 rest
  | 'u' :: rest => codePoint? 4 rest
  | 'U' :: rest => codePoint? 8 rest
  | _ => none

def basic : Nat → Parser (List Char)
  | 0, _ => none
  | _ + 1, [] => none
  | _ + 1, '"' :: rest => some ([], rest)
  | fuel + 1, '\\' :: rest => do
      let (c, rest) ← escape? rest
      let (chars, rest) ← basic fuel rest
      return (c :: chars, rest)
  | fuel + 1, c :: rest => do
      if isControl c then none
      let (chars, rest) ← basic fuel rest
      return (c :: chars, rest)

def literal : Parser (List Char)
  | [] => none
  | '\x27' :: rest => some ([], rest)
  | c :: rest =>
      if isControl c then none else (literal rest).map fun (chars, rest) => (c :: chars, rest)

/-- What a run of quotes is inside a text of several lines: fewer than three belong to the
text, and otherwise up to two before the three that close it do. -/
def quoteRun (quote : Char) (chars : List Char) : Nat × Bool :=
  let run := (chars.takeWhile (· == quote)).length
  if run < 3 then (run, false) else (min run 5 - 3, true)

/-- Reads a text of several lines up to its closing quotes. Where backslashes escape, one
at the end of a line takes the line end and the blanks after it away. -/
def multiline (quote : Char) (escapes : Bool) : Nat → Parser (List Char)
  | 0, _ => none
  | _ + 1, [] => none
  | fuel + 1, c :: rest =>
      if c == quote then
        let (kept, closes) := quoteRun quote (c :: rest)
        let quotes := List.replicate kept quote
        if closes then some (quotes, (c :: rest).drop (kept + 3))
        else (multiline quote escapes fuel ((c :: rest).drop kept)).map fun (chars, rest) =>
          (quotes ++ chars, rest)
      else if c == '\\' && escapes then
        match newline? (skipIndent rest) with
        | some rest => multiline quote escapes fuel (skipBlankLines rest.length rest)
        | none => do
            let (c, rest) ← escape? rest
            let (chars, rest) ← multiline quote escapes fuel rest
            return (c :: chars, rest)
      else
        match newline? (c :: rest) with
        | some after => do
            let ended := (c :: rest).take ((c :: rest).length - after.length)
            let (chars, rest) ← multiline quote escapes fuel after
            return (ended ++ chars, rest)
        | none =>
            if isControl c then none
            else (multiline quote escapes fuel rest).map fun (chars, rest) => (c :: chars, rest)

def openMultiline (quote : Char) (escapes : Bool) (chars : List Char) :
    Option (List Char × List Char) :=
  multiline quote escapes (chars.length + 1) ((newline? chars).getD chars)

def oneLine : Parser (List Char)
  | '"' :: rest => basic (rest.length + 1) rest
  | '\x27' :: rest => literal rest
  | _ => none

def any : Parser (List Char)
  | '"' :: '"' :: '"' :: rest => openMultiline '"' true rest
  | '\x27' :: '\x27' :: '\x27' :: rest => openMultiline '\x27' false rest
  | chars => oneLine chars

end Strings

namespace Numbers

def digits? (isDigit : Char → Bool) (chars : List Char) : Option (List Char) :=
  let groups := Text.splitWhere (· == '_') chars
  if groups.all fun group => !group.isEmpty && group.all isDigit then some groups.flatten
  else none

def ungrouped? (isDigit : Char → Bool) (chars : List Char) : Option (List Char) :=
  match Text.splitWhere (· == '_') chars with
  | [] => none
  | [_] => some chars
  | first :: others =>
      let opens := fun group : List Char => group.head?.any isDigit
      let closes := fun group : List Char => group.getLast?.any isDigit
      if closes first && others.all opens && others.dropLast.all closes then
        some (first ++ others.flatten)
      else none

def valueIn (base : Nat) (digits : List Char) : Nat :=
  digits.foldl (fun value digit => value * base + (Json.Token.hexDigit? digit).getD 0) 0

def signed (chars : List Char) : Bool × List Char :=
  match chars with
  | '-' :: rest => (true, rest)
  | '+' :: rest => (false, rest)
  | _ => (false, chars)

/-- Whether the digits before a point or an exponent are such that there are some, and a
zero is the first of them only if neither a digit nor an underscore follows it. -/
def opensWell (chars : List Char) : Bool :=
  let digits := chars.takeWhile fun c => c.isDigit || c == '_'
  digits.any Char.isDigit && (digits.length == 1 || chars.head? != some '0')

/-- Whole numbers fit into 128 bits, with a sign bit where they are negative. -/
def fitting? (value : Int) : Option Int :=
  if -(Nat.pow 2 127 : Int) ≤ value ∧ value < Nat.pow 2 128 then some value else none

def marked? (base : Nat) (isDigit : Char → Bool) (chars : List Char) : Option (Option Int) :=
  if chars.isEmpty then some none
  else (digits? isDigit chars).map fun digits => fitting? (valueIn base digits)

def isHexDigit (c : Char) : Bool := (Json.Token.hexDigit? c).isSome

/-- The whole number of decimal digits. Behind an underscore, only the digits next to
further ones are looked at, and as hexadecimal ones. -/
def decimal? (chars : List Char) : Option (Option Int) := do
  let (negative, rest) := signed chars
  let tail := rest.dropWhile Char.isDigit
  if !tail.isEmpty && tail.head? != some '_' || tail.any ([' ', '.', 'e', 'E'].contains ·) then none
  if !opensWell rest then none
  let digits := (signed (← ungrouped? isHexDigit chars)).2
  if digits.all Char.isDigit then
    return fitting? (if negative then -(valueIn 10 digits : Int) else valueIn 10 digits)
  else return none

def whole? (chars : List Char) : Option (Option Int) :=
  match chars with
  | '0' :: 'x' :: rest => marked? 16 isHexDigit rest
  | '0' :: 'o' :: rest => marked? 8 (fun c => '0' ≤ c && c ≤ '7') rest
  | '0' :: 'b' :: rest => marked? 2 (fun c => c == '0' || c == '1') rest
  | _ => decimal? chars

/-- The double nearest to `significand * 10 ^ exponent`. Powers of ten far beyond those of
doubles are not computed. -/
def nearest (significand : Nat) (exponent : Int) : Float :=
  let leading := exponent + (significand.repr.length : Int)
  if significand = 0 ∨ leading < -400 then 0.0
  else if 400 < leading then 1.0 / 0.0
  else Float.ofScientific significand (exponent < 0) exponent.natAbs

def someDigits? (chars : List Char) : Option (List Char) :=
  if !chars.isEmpty && chars.all Char.isDigit then some chars else none

def exponent? (chars : List Char) : Option Int :=
  let (falls, rest) := signed chars
  (someDigits? rest).map fun digits =>
    if falls then -(valueIn 10 digits : Int) else valueIn 10 digits

def splitExponent? (chars : List Char) : Option (List Char × Option Int) :=
  match chars.span fun c => c != 'e' && c != 'E' with
  | (mantissa, []) => some (mantissa, none)
  | (mantissa, _ :: rest) => (exponent? rest).map fun exponent => (mantissa, some exponent)

/-- The digits before and after the point, of which there is none only before an exponent. -/
def splitPoint? (mantissa : List Char) (hasExponent : Bool) : Option (List Char × List Char) :=
  match Text.cutFirst? '.' mantissa with
  | some (before, after) => do return (← someDigits? before, ← someDigits? after)
  | none => if hasExponent then (someDigits? mantissa).map fun digits => (digits, []) else none

def fractional? (chars : List Char) : Option (Option Float) := do
  if !opensWell (signed chars).2 then none
  let (negative, rest) := signed (← ungrouped? Char.isDigit chars)
  let (mantissa, exponent) ← splitExponent? rest
  let (whole, fraction) ← splitPoint? mantissa exponent.isSome
  let value := nearest (valueIn 10 (whole ++ fraction)) (exponent.getD 0 - fraction.length)
  return if value.isInf then none else some (if negative then -value else value)

def real? (chars : List Char) : Option (Option Float) :=
  let (negative, rest) := signed chars
  let withSign (value : Float) := if negative then -value else value
  if rest == "inf".toList then some (some (withSign (1.0 / 0.0)))
  else if rest == "nan".toList then some (some (withSign (0.0 / 0.0)))
  else fractional? chars

end Numbers

namespace Moments

def fixed (count : Nat) : Parser Nat := fun chars =>
  let digits := chars.take count
  if digits.length == count && digits.all Char.isDigit then
    some (Numbers.valueIn 10 digits, chars.drop count)
  else none

def isLeap (year : Nat) : Bool := year % 4 == 0 && (year % 100 != 0 || year % 400 == 0)

def daysIn (year month : Nat) : Nat :=
  if month == 2 then (if isLeap year then 29 else 28)
  else if [4, 6, 9, 11].contains month then 30
  else 31

def afterDate? (chars : List Char) : Option (List Char) := do
  let (year, rest) ← fixed 4 chars
  let '-' :: rest := rest | none
  let (month, rest) ← fixed 2 rest
  let '-' :: rest := rest | none
  let (day, rest) ← fixed 2 rest
  if 1 ≤ month ∧ month ≤ 12 ∧ 1 ≤ day ∧ day ≤ daysIn year month then some rest else none

def afterFraction? (chars : List Char) : Option (List Char) :=
  match chars with
  | '.' :: rest =>
      if (rest.takeWhile Char.isDigit).isEmpty then none else some (rest.dropWhile Char.isDigit)
  | _ => some chars

def afterTime? (chars : List Char) : Option (List Char) := do
  let (hour, rest) ← fixed 2 chars
  let ':' :: rest := rest | none
  let (minute, rest) ← fixed 2 rest
  if 23 < hour ∨ 59 < minute then none
  match rest with
  | ':' :: rest =>
      let (second, rest) ← fixed 2 rest
      if 60 < second then none
      afterFraction? rest
  | _ => return rest

def isOffset (chars : List Char) : Bool :=
  match chars with
  | [] | ['Z'] | ['z'] => true
  | sign :: rest =>
      (sign == '+' || sign == '-') &&
        match fixed 2 rest with
        | some (hour, ':' :: rest) =>
            match fixed 2 rest with
            | some (minute, []) => hour ≤ 23 && minute ≤ 59
            | _ => false
        | _ => false

def isMoment (chars : List Char) : Bool :=
  afterTime? chars == some [] ||
    match afterDate? chars with
    | none => false
    | some [] => true
    | some (mark :: rest) =>
        (mark == 'T' || mark == 't' || mark == ' ') &&
          match afterTime? rest with
          | some offset => isOffset offset
          | none => false

/-- A date or time as a value: a record without any field that a setting could have. -/
def value (chars : List Char) : Value :=
  .object [("date or time", .string (String.ofList chars))]

end Moments

def isAtomic (c : Char) : Bool := !"=,[]\x7b\x7d \t#\r\n".toList.contains c

/-- What a run of such characters stands for. Some numerals stand for no number, which is
an error only where one is wanted. -/
def ofAtom? (chars : List Char) : Option (Option Value) :=
  if chars == "true".toList then some (some (.bool true))
  else if chars == "false".toList then some (some (.bool false))
  else
    match Numbers.whole? chars with
    | some value => some (value.map fun value => .number (.whole value))
    | none =>
        match Numbers.real? chars with
        | some value => some (value.map fun value => .number (.real value))
        | none => if Moments.isMoment chars then some (some (Moments.value chars)) else none

def isResumed (c : Char) : Bool := isAtomic c && c != '"' && c != '\x27'

/-- The run of such characters at the start of a text, and the rest. Blanks belong to the run
where it goes on behind them, as a time does behind its date. -/
def atomRun : List Char → List Char × List Char
  | [] => ([], [])
  | c :: rest =>
      if isAtomic c || isIndent c && (skipIndent rest).head?.any isResumed then
        let (run, after) := atomRun rest
        (c :: run, after)
      else ([], c :: rest)

def atom : Parser (Option Value) := fun chars =>
  let (run, rest) := atomRun chars
  (ofAtom? run).map fun value => (value, rest)

def scalar : Parser (Option Value) := fun chars =>
  match chars with
  | '"' :: _ | '\x27' :: _ =>
      (Strings.any chars).map fun (text, rest) => (some (.string (String.ofList text)), rest)
  | _ => atom chars

end PackageProvider.Toml
