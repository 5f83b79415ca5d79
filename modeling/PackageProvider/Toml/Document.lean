import PackageProvider.Text.Pieces
import PackageProvider.Toml.Item
import PackageProvider.Toml.Scalar

set_option autoImplicit false

/-! TOML documents: keys, values, headers, and the table that they make up. -/

namespace PackageProvider.Toml

def isBare (c : Char) : Bool := c.isAlphanum || c == '_' || c == '-'

def keyPart : Parser String := fun chars =>
  match chars with
  | '"' :: _ | '\x27' :: _ =>
      (Strings.oneLine chars).map fun (text, rest) => (String.ofList text, rest)
  | _ =>
      let bare := chars.takeWhile isBare
      if bare.isEmpty then none else some (String.ofList bare, chars.dropWhile isBare)

def dottedKey : Nat → Parser (List String × String)
  | 0, _ => none
  | fuel + 1, chars => do
      let (part, rest) ← keyPart (skipIndent chars)
      match skipIndent rest with
      | '.' :: rest => do
          let ((path, key), rest) ← dottedKey fuel rest
          return ((part :: path, key), rest)
      | rest => return (([], part), rest)

/-- Lists and tables in braces nest this deep at most, and no key has more parts. -/
def depthLimit : Nat := 80

def key : Parser (List String × String) := dottedKey depthLimit

def skipComment? (chars : List Char) : Option (List Char) :=
  match chars with
  | '#' :: rest =>
      let comment := rest.takeWhile (· != '\n')
      let ended := if rest.length == comment.length then comment else Text.dropReturn comment
      if ended.any isControl then none else some (rest.drop ended.length)
  | _ => some chars

def skipFiller? : Nat → List Char → Option (List Char)
  | 0, chars => some chars
  | fuel + 1, chars => do
      let rest ← skipComment? (skipIndent chars)
      match newline? rest with
      | some rest => skipFiller? fuel rest
      | none => return rest

def filler? (chars : List Char) : Option (List Char) := skipFiller? (chars.length + 1) chars

def listItems {Result : Type} (close : Char) (item : Parser Result) : Nat → Parser (List Result)
  | 0, _ => none
  | fuel + 1, chars => do
      let rest ← filler? chars
      if rest.head? == some close then return ([], rest.drop 1)
      let (first, rest) ← item rest
      match ← filler? rest with
      | ',' :: rest => do
          let (others, rest) ← listItems close item fuel rest
          return (first :: others, rest)
      | c :: rest => if c == close then return ([first], rest) else none
      | [] => none

def entry (skip? : List Char → Option (List Char)) (value : Parser Item) :
    Parser ((List String × String) × Item) := fun chars => do
  let (key, rest) ← key chars
  let '=' :: rest ← skip? rest | none
  let (item, rest) ← value (← skip? rest)
  return ((key, item), rest)

def value : Nat → Parser Item
  | 0, chars => (scalar chars).map fun (value, rest) => (.scalar value, rest)
  | depth + 1, chars =>
      match chars with
      | '[' :: rest =>
          (listItems ']' (value depth) (rest.length + 1) rest).map fun (items, rest) =>
            (.list items, rest)
      | '\x7b' :: rest => do
          let (found, rest) ← listItems '\x7d' (entry filler? (value depth)) (rest.length + 1) rest
          let entries ← found.foldlM
            (fun entries ((path, key), item) => Entries.addDotted path key item .inline entries) []
          return (.table .inline entries, rest)
      | _ => (scalar chars).map fun (value, rest) => (.scalar value, rest)

def endOfLine? (chars : List Char) : Option (List Char) := do
  let rest ← skipComment? (skipIndent chars)
  match rest with
  | [] => return []
  | _ => newline? rest

/-- A document as far as it has been read: its entries, and the table that the last header
opened, as a path and a key. -/
structure Reading where
  entries : Entries := []
  header : Option (List String × String) := none
  deriving Inhabited

namespace Reading

def addEntry (reading : Reading) (path : List String) (key : String) (item : Item) :
    Option Reading := do
  let table := match reading.header with
    | some (path, key) => path ++ [key]
    | none => []
  let entries ← reading.entries.changeAt false (Entries.addDotted path key item) table .header
  return { reading with entries }

def addHeader (reading : Reading) (double : Bool) (path : List String) (key : String) :
    Option Reading := do
  let openOne := if double then Entries.openTables key else Entries.openTable key
  let entries ← reading.entries.changeAt false openOne path .header
  return { entries, header := some (path, key) }

def readLine (reading : Reading) : Parser Reading := fun chars =>
  match chars with
  | '[' :: '[' :: rest => do
      let ((path, key), rest) ← key rest
      let ']' :: ']' :: rest := rest | none
      return (← reading.addHeader true path key, rest)
  | '[' :: rest => do
      let ((path, key), rest) ← key rest
      let ']' :: rest := rest | none
      return (← reading.addHeader false path key, rest)
  | _ => do
      let (((path, key), item), rest) ← entry (some ∘ skipIndent) (value depthLimit) chars
      return (← reading.addEntry path key item, rest)

def readLines : Nat → Reading → List Char → Option Reading
  | 0, _, _ => none
  | fuel + 1, reading, chars => do
      match ← filler? chars with
      | [] => return reading
      | rest =>
          let (reading, rest) ← reading.readLine rest
          readLines fuel reading (← endOfLine? rest)

end Reading

/-- The entries that a text holds. A byte order mark at its start does not belong to it. -/
def parse (text : String) : Option Entries := do
  let chars := match text.toList with
    | '\uFEFF' :: rest => rest
    | chars => chars
  let reading ← Reading.readLines (chars.length + 1) {} chars
  return reading.entries

end PackageProvider.Toml
