import PackageProvider.Json.Value

set_option autoImplicit false

/-! What a TOML document holds. A table remembers how it came about, since that decides
whether it may be extended later and by what. -/

namespace PackageProvider.Toml

/-- How a table came about. -/
inductive Origin where
  | header
  /-- By being on the way to a table that has a header. -/
  | implied
  | dotted
  /-- As a value in braces, which nothing may extend. -/
  | inline
  deriving DecidableEq, Repr, Inhabited

inductive Item where
  /-- A scalar with its value, which some numerals do not have. -/
  | scalar (value : Option Json.Value)
  | list (items : List Item)
  | table (origin : Origin) (entries : List (String × Item))
  | tables (items : List (List (String × Item)))
  deriving Repr, Inhabited

abbrev Entries := List (String × Item)

namespace Entries

def get? (entries : Entries) (key : String) : Option Item :=
  (entries.find? fun entry => entry.1 == key).map (·.2)

def replace (entries : Entries) (key : String) (item : Item) : Entries :=
  entries.map fun entry => if entry.1 == key then (key, item) else entry

/-- Changes the table at a path, where tables that are missing on the way come about.
Dotted keys take over tables that were only on the way to another one, and do not pass
through those with a header of their own. -/
def changeAt (byDots : Bool) (change : Origin → Entries → Option Entries) :
    List String → Origin → Entries → Option Entries
  | [], origin, entries => change origin entries
  | key :: path, _, entries =>
      match entries.get? key with
      | none => do
          let origin := if byDots then Origin.dotted else .implied
          let inner ← changeAt byDots change path origin []
          return entries ++ [(key, .table origin inner)]
      | some (.table origin inner) =>
          if origin = .inline ∨ (byDots ∧ origin = .header) then none
          else do
            let origin := if byDots then .dotted else origin
            let inner ← changeAt byDots change path origin inner
            return entries.replace key (.table origin inner)
      | some (.tables items) => do
          let last ← items.getLast?
          let inner ← changeAt byDots change path .header last
          return entries.replace key (.tables (items.dropLast ++ [inner]))
      | some (.scalar _) | some (.list _) => none

/-- Adds an item under a new key. A table that dotted keys made is extended by dotted keys
alone, and they extend no other. -/
def add (dotted : Bool) (key : String) (item : Item) (origin : Origin) (entries : Entries) :
    Option Entries :=
  if (origin == .dotted) != dotted then none
  else match entries.get? key with
    | some _ => none
    | none => some (entries ++ [(key, item)])

def addDotted (path : List String) (key : String) (item : Item) (origin : Origin)
    (entries : Entries) : Option Entries :=
  changeAt true (add (!path.isEmpty) key item) path origin entries

/-- Gives the table of a header its place. A table that was only on the way to another one
gets its header now; any other one has it already. -/
def openTable (key : String) (_ : Origin) (entries : Entries) : Option Entries :=
  match entries.get? key with
  | none => some (entries ++ [(key, .table .header [])])
  | some (.table .implied inner) => some (entries.replace key (.table .header inner))
  | some _ => none

def openTables (key : String) (_ : Origin) (entries : Entries) : Option Entries :=
  match entries.get? key with
  | none => some (entries ++ [(key, .tables [[]])])
  | some (.tables items) => some (entries.replace key (.tables (items ++ [[]])))
  | some _ => none

end Entries

mutual

def Item.toValue? : Item → Option Json.Value
  | .scalar value => value
  | .list items => (valuesOf? items).map .array
  | .table _ entries => (entryValuesOf? entries).map .object
  | .tables items => (tableValuesOf? items).map .array

def valuesOf? : List Item → Option (List Json.Value)
  | [] => some []
  | item :: rest => do return (← item.toValue?) :: (← valuesOf? rest)

def entryValuesOf? : List (String × Item) → Option (List (String × Json.Value))
  | [] => some []
  | (key, item) :: rest => do return (key, ← item.toValue?) :: (← entryValuesOf? rest)

def tableValuesOf? : List (List (String × Item)) → Option (List Json.Value)
  | [] => some []
  | entries :: rest => do return .object (← entryValuesOf? entries) :: (← tableValuesOf? rest)

end

end PackageProvider.Toml
