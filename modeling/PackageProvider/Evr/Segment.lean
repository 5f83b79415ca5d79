import PackageProvider.Evr.Basic

set_option autoImplicit false

/-! The segments of a version, which are what its order sees. Runs of digits stand for
numbers, runs of letters for themselves, `~` and `^` for themselves, and every other
character, also each one outside ASCII, only parts one run from the next. The list of a
version's segments says what its order means; comparing two versions does not build it. -/

namespace PackageProvider

inductive Segment where
  | tilde
  | ending
  | caret
  | letters (run : List Char)
  | number (value : Nat)
  deriving DecidableEq, Repr, Inhabited

namespace Segment

/-- The place of a kind of segment among the others: `~` comes before everything, also
before the end; `^` comes after the end and before everything else; letters come before
numbers. -/
def rank : Segment → Nat
  | tilde => 0
  | ending => 1
  | caret => 2
  | letters _ => 3
  | number _ => 4

def value : Segment → Nat
  | number value => value
  | tilde | ending | caret | letters _ => 0

def run : Segment → List Char
  | letters run => run
  | tilde | ending | caret | number _ => []

def compare : Segment → Segment → Ordering :=
  compareLex (compareOn rank) (compareLex (compareOn value) (compareOn run))

end Segment

namespace Version

theorem length_dropWhile_lt (p : Char → Bool) (c : Char) (rest : List Char) :
    (rest.dropWhile p).length < (c :: rest).length :=
  Nat.lt_succ_of_le (List.dropWhile_sublist p).length_le

/-- The segments of a version, the end included. Runs are as long as possible. -/
def segments : List Char → List Segment
  | [] => [.ending]
  | c :: rest =>
      if c = '~' then .tilde :: segments rest
      else if c = '^' then .caret :: segments rest
      else if c.isDigit then
        .number (Evr.number (c :: rest.takeWhile Char.isDigit))
          :: segments (rest.dropWhile Char.isDigit)
      else if c.isAlpha then
        .letters (c :: rest.takeWhile Char.isAlpha) :: segments (rest.dropWhile Char.isAlpha)
      else segments rest
termination_by text => text.length
decreasing_by
  · exact Nat.lt_succ_self _
  · exact Nat.lt_succ_self _
  · exact length_dropWhile_lt _ _ _
  · exact length_dropWhile_lt _ _ _
  · exact Nat.lt_succ_self _

def compareSegments (left right : List Char) : Ordering :=
  List.compareLex Segment.compare (segments left) (segments right)

end Version

end PackageProvider
