set_option autoImplicit false

/-! Cutting text into pieces. Text is a list of characters here; no piece loses a
character other than the separators it was cut at. -/

namespace PackageProvider.Text

/-- The pieces between the characters that `cut` selects. There is always at least one
piece, and one more than there are selected characters. -/
def splitWhere (cut : Char → Bool) : List Char → List (List Char)
  | [] => [[]]
  | c :: rest =>
      if cut c then [] :: splitWhere cut rest
      else match splitWhere cut rest with
        | [] => [[c]]
        | first :: others => (c :: first) :: others

def cutFirst? (mark : Char) : List Char → Option (List Char × List Char)
  | [] => none
  | c :: rest =>
      if c = mark then some ([], rest)
      else (cutFirst? mark rest).map fun (before, after) => (c :: before, after)

def cutLast? (mark : Char) : List Char → Option (List Char × List Char)
  | [] => none
  | c :: rest =>
      match cutLast? mark rest with
      | some (before, after) => some (c :: before, after)
      | none => if c = mark then some ([], rest) else none

def occurs (phrase : List Char) : List Char → Bool
  | [] => phrase.isEmpty
  | c :: rest => phrase.isPrefixOf (c :: rest) || occurs phrase rest

def after? (phrase : List Char) : List Char → Option (List Char)
  | [] => if phrase.isEmpty then some [] else none
  | c :: rest =>
      if phrase.isPrefixOf (c :: rest) then some ((c :: rest).drop phrase.length)
      else after? phrase rest

def dropReturn (line : List Char) : List Char :=
  if line.getLast? = some '\r' then line.dropLast else line

/-- What the pieces between newlines are as lines: the last piece was ended by no newline,
so it keeps its carriage return, and it is no line at all when it is empty. -/
def closeLines : List (List Char) → List (List Char)
  | [] => []
  | [last] => if last.isEmpty then [] else [last]
  | line :: rest => dropReturn line :: closeLines rest

def lines (text : List Char) : List (List Char) :=
  closeLines (splitWhere (· == '\n') text)

end PackageProvider.Text
