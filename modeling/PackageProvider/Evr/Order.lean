import PackageProvider.Evr.Basic

set_option autoImplicit false

/-! The order of versions and of EVRs. Different texts may be the same to it.

Two versions are scanned from the left in step. Separators are passed over; `~` comes
before everything, also before the end of the text; `^` comes after the end and before
everything else; runs of digits compare as numbers and come after runs of letters. -/

namespace PackageProvider

namespace Version

/-- A character that only ends a run. Characters outside ASCII are all separators. -/
def isSeparator (c : Char) : Bool := !(c.isAlphanum || c == '~' || c == '^')

def compareLetters : List Char → List Char → Ordering
  | [], [] => .eq
  | [], _ :: _ => .lt
  | _ :: _, [] => .gt
  | a :: as, b :: bs => (Ord.compare a.toNat b.toNat).then (compareLetters as bs)

/-- Runs of digits of any length compare as numbers: without leading zeros the longer one
is greater, and of equal lengths the first difference decides. -/
def compareDigits (left right : List Char) : Ordering :=
  let significant := List.dropWhile (· == '0')
  (Ord.compare (significant left).length (significant right).length).then
    (compareLetters (significant left) (significant right))

def runOf (c : Char) : Char → Bool := if c.isDigit then Char.isDigit else Char.isAlpha

theorem length_dropWhile_le (p : Char → Bool) (text : List Char) :
    (text.dropWhile p).length ≤ text.length :=
  (List.dropWhile_sublist p).length_le

/-- Compares two versions run by run. A run of the left version that meets no run of its
own kind on the right is greater if it is a run of digits, and less otherwise. -/
def scan (left right : List Char) : Ordering :=
  match _atLeft : left.dropWhile isSeparator, _atRight : right.dropWhile isSeparator with
  | '~' :: left, '~' :: right => scan left right
  | '~' :: _, _ => .lt
  | _, '~' :: _ => .gt
  | '^' :: left, '^' :: right => scan left right
  | [], '^' :: _ => .lt
  | '^' :: _, [] => .gt
  | '^' :: _, _ => .lt
  | _, '^' :: _ => .gt
  | [], [] => .eq
  | [], _ :: _ => .lt
  | _ :: _, [] => .gt
  | c :: left, d :: right =>
      let isRun := runOf c
      if !isRun d then (if c.isDigit then .gt else .lt)
      else
        let compared :=
          if c.isDigit then
            compareDigits (c :: left.takeWhile isRun) (d :: right.takeWhile isRun)
          else
            compareLetters (c :: left.takeWhile isRun) (d :: right.takeWhile isRun)
        match compared with
        | .eq => scan (left.dropWhile isRun) (right.dropWhile isRun)
        | unequal => unequal
termination_by left.length
decreasing_by
  all_goals grind [length_dropWhile_le]

def compare (left right : List Char) : Ordering :=
  if left = right then .eq else scan left right

end Version

namespace Evr

def compareReleases : Option (List Char) → Option (List Char) → Ordering
  | some left, some right => Version.compare left right
  | some _, none => .gt
  | none, some _ => .lt
  | none, none => .eq

def compare (left right : Evr) : Ordering :=
  (Ord.compare left.epoch right.epoch).then
    ((Version.compare left.version right.version).then
      (compareReleases left.release right.release))

def equivalent (left right : Evr) : Bool := compare left right == .eq

def newer (left right : Evr) : Bool := compare left right == .gt

end Evr

end PackageProvider
