import Mathlib.Data.List.Basic
import PackageProvider.Proofs.Text.Pieces

set_option autoImplicit false

/-! Texts made of lines. Every text is made of some, and they are what it is read as. -/

namespace PackageProvider.Text

/-- A text printed line by line. A line is ended by a newline, or by a carriage return and a
newline; the last one need not be ended. -/
inductive Printed : List (List Char) → List Char → Prop where
  | empty : Printed [] []
  | unended {line : List Char} (some : line ≠ []) (single : '\n' ∉ line) : Printed [line] line
  | ended {line rest : List Char} {lines : List (List Char)} (single : '\n' ∉ line)
      (plain : line.getLast? ≠ some '\r') (others : Printed lines rest) :
      Printed (line :: lines) (line ++ '\n' :: rest)
  | returned {line rest : List Char} {lines : List (List Char)} (single : '\n' ∉ line)
      (others : Printed lines rest) : Printed (line :: lines) (line ++ '\r' :: '\n' :: rest)

theorem Printed.of_lines {lines : List (List Char)}
    (plain : ∀ line ∈ lines, '\n' ∉ line ∧ line.getLast? ≠ some '\r') :
    Printed lines (lines.flatMap (· ++ ['\n'])) := by
  induction lines with
  | nil => exact .empty
  | cons line lines ih =>
      obtain ⟨⟨single, kept⟩, later⟩ := List.forall_mem_cons.mp plain
      rw [List.flatMap_cons, List.append_assoc, List.singleton_append]
      exact .ended single kept (ih later)

theorem splitWhere_of_single {line : List Char} (single : '\n' ∉ line) :
    splitWhere (· == '\n') line = [line] := by
  refine splitWhere_of_plain fun c member => ?_
  rw [beq_eq_false_iff_ne]
  rintro rfl
  exact single member

theorem lines_of_single {line : List Char} (single : '\n' ∉ line) :
    lines line = if line.isEmpty then [] else [line] := by
  rw [lines, splitWhere_of_single single, closeLines]

theorem lines_append_newline {line : List Char} (single : '\n' ∉ line) (rest : List Char) :
    lines (line ++ '\n' :: rest) = dropReturn line :: lines rest := by
  obtain ⟨first, others, pieces⟩ := exists_splitWhere (· == '\n') rest
  rw [lines, splitWhere_append_cons (by decide), splitWhere_of_single single, pieces,
    List.singleton_append, closeLines, ← pieces, lines]
  exact fun impossible => nomatch impossible

theorem dropReturn_of_plain {line : List Char} (plain : line.getLast? ≠ some '\r') :
    dropReturn line = line :=
  if_neg plain

theorem dropReturn_concat (line : List Char) : dropReturn (line ++ ['\r']) = line := by
  rw [dropReturn, if_pos (List.getLast?_concat ..), List.dropLast_concat]

theorem Printed.lines_eq {text : List Char} {made : List (List Char)}
    (printed : Printed made text) :
    lines text = made := by
  induction printed with
  | empty => rfl
  | unended some single => rw [lines_of_single single, List.isEmpty_eq_false_iff.mpr some]; rfl
  | ended single plain _ ih => rw [lines_append_newline single, dropReturn_of_plain plain, ih]
  | @returned line rest _ single _ ih =>
      have longer : '\n' ∉ line ++ ['\r'] := by simpa using single
      have parts : line ++ '\r' :: '\n' :: rest = (line ++ ['\r']) ++ '\n' :: rest := by simp
      rw [parts, lines_append_newline longer, dropReturn_concat, ih]

theorem printed_lines (text : List Char) : Printed (lines text) text := by
  by_cases newline : '\n' ∈ text
  · obtain ⟨line, rest, parts, single⟩ := List.eq_append_cons_of_mem newline
    have shorter : rest.length < text.length := by
      rw [parts, List.length_append, List.length_cons]
      omega
    have others := printed_lines rest
    rw [parts, lines_append_newline single]
    by_cases ends : line.getLast? = some '\r'
    · obtain ⟨front, rfl⟩ := List.getLast?_eq_some_iff.mp ends
      rw [dropReturn_concat, List.append_assoc]
      exact .returned (fun member => single (List.mem_append_left _ member)) others
    · rw [dropReturn_of_plain ends]
      exact .ended single ends others
  · rw [lines_of_single newline]
    cases text with
    | nil => exact .empty
    | cons c rest => exact .unended (List.cons_ne_nil c rest) newline
termination_by text.length

end PackageProvider.Text
