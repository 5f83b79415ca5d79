import PackageProvider.Text.Blank
import PackageProvider.Text.LetterCase
import PackageProvider.Transaction

set_option autoImplicit false

/-! The table of a transaction that dnf prints before it asks for confirmation. A header
line opens a section; the rows below it are indented and start with name, architecture
and EVR. A long name stands on a line of its own with the rest of its row below. -/

namespace PackageProvider.Dnf

inductive Section where
  | installs
  | removals
  | ignored
  deriving DecidableEq, Repr

def installHeaders : List String := ["installing", "upgrading", "downgrading", "reinstalling"]

def removalHeaders : List String := ["removing"]

namespace Section

def ofHeader (header : List Char) : Section :=
  let lowered := Text.lower header
  let begins (words : List String) := words.any fun word => word.toList.isPrefixOf lowered
  if begins installHeaders then .installs
  else if begins removalHeaders then .removals
  else .ignored

end Section

def isHeader (line : List Char) : Bool :=
  !" ".toList.isPrefixOf line && (Text.trimEnd line).getLast? == some ':'

def isFiller (line : List Char) : Bool := Text.allBlank line || "=".toList.isPrefixOf line

/-- What has been read of a table: the section that the last header opened, a name that
stands on a line of its own, and the builds so far. -/
structure TableReading where
  current : Option Section := none
  wrapped : Option String := none
  transaction : Transaction := {}
  deriving DecidableEq, Repr

namespace TableReading

def file (reading : TableReading) (under : Section) (build : Build) : TableReading :=
  let filed := reading.transaction
  let transaction := match under with
    | .installs => { filed with installs := filed.installs ++ [build] }
    | .removals => { filed with removals := filed.removals ++ [build] }
    | .ignored => filed
  { reading with transaction }

/-- Reads the words of a line below a header. A line on what is replaced is passed over, and
a single word is the name of the row that goes on below. -/
def readRow (reading : TableReading) (under : Section) (words : List String) : TableReading :=
  match words with
  | "replacing" :: _ => reading
  | [name] => { reading with wrapped := some name }
  | _ =>
      let unwrapped := { reading with wrapped := none }
      match reading.wrapped.toList ++ words with
      | name :: arch :: evr :: _ => unwrapped.file under ⟨name, evr, arch⟩
      | _ => unwrapped

def readLine (reading : TableReading) (line : List Char) : TableReading :=
  if isFiller line then reading
  else if isHeader line then
    { reading with current := some (.ofHeader (Text.trim line)), wrapped := none }
  else match reading.current with
    | none => reading
    | some under => reading.readRow under ((Text.words line).map String.ofList)

end TableReading

/-- The transaction of the table in a text, which ends at the summary. There is none where
no header is found. -/
def readTransactionTable (text : List Char) : Option Transaction :=
  let table := (Text.lines text).takeWhile fun line => !"Transaction Summary".toList.isPrefixOf line
  let reading := table.foldl TableReading.readLine {}
  reading.current.map fun _ => reading.transaction

end PackageProvider.Dnf
