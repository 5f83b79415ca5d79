import Mathlib.Data.List.DropRight
import PackageProvider.Proofs.Text.Pieces
import PackageProvider.Text.Blank

set_option autoImplicit false

/-! Lines made of words, and lines with blanks at their ends. Every indented line is made of some
words, and they are what it is read as. -/

namespace PackageProvider.Text

/-! ### Words -/

/-- A line of words, each behind blanks. Blanks may follow the last one. -/
inductive Spaced : List Char → List (List Char) → Prop where
  | blank {gap : List Char} (blank : ∀ c ∈ gap, isBlank c = true) : Spaced gap []
  | word {gap word rest : List Char} {words : List (List Char)} (apart : gap ≠ [])
      (blank : ∀ c ∈ gap, isBlank c = true) (some : word ≠ [])
      (solid : ∀ c ∈ word, isBlank c = false) (others : Spaced rest words) :
      Spaced (gap ++ word ++ rest) (word :: words)

theorem words_append_cons {c : Char} (blank : isBlank c = true) (before after : List Char) :
    words (before ++ c :: after) = words before ++ words after := by
  rw [words, splitWhere_append_cons blank, List.filter_append, words, words]

theorem words_append_of_blank {gap : List Char} (blank : ∀ c ∈ gap, isBlank c = true)
    (rest : List Char) : words (gap ++ rest) = words rest := by
  induction gap with
  | nil => rfl
  | cons c gap ih =>
      obtain ⟨here, later⟩ := List.forall_mem_cons.mp blank
      rw [List.cons_append, ← List.nil_append (c :: _), words_append_cons here, ih later]
      rfl

theorem words_of_solid {word : List Char} (some : word ≠ [])
    (solid : ∀ c ∈ word, isBlank c = false) : words word = [word] := by
  rw [words, splitWhere_of_plain solid, List.filter_cons_of_pos, List.filter_nil]
  rw [List.isEmpty_eq_false_iff.mpr some, Bool.not_false]

theorem Spaced.opens {line : List Char} {made : List (List Char)} (spaced : Spaced line made) :
    line = [] ∨ ∃ c rest, line = c :: rest ∧ isBlank c = true := by
  cases spaced with
  | blank blank =>
      cases line with
      | nil => exact .inl rfl
      | cons c rest => exact .inr ⟨c, rest, rfl, blank c List.mem_cons_self⟩
  | @word gap word rest _ apart blank _ _ _ =>
      cases gap with
      | nil => exact (apart rfl).elim
      | cons c gap => exact .inr ⟨c, gap ++ word ++ rest, rfl, blank c List.mem_cons_self⟩

theorem Spaced.words_eq {line : List Char} {made : List (List Char)} (spaced : Spaced line made) :
    words line = made := by
  induction spaced with
  | @blank gap blank =>
      have none := words_append_of_blank blank []
      rw [List.append_nil] at none
      exact none
  | @word gap word rest made apart blank some solid others ih =>
      rw [List.append_assoc, words_append_of_blank blank]
      rcases others.opens with rfl | ⟨c, behind, rfl, space⟩
      · rw [List.append_nil, words_of_solid some solid, ← ih]
        rfl
      · rw [words_append_cons space, words_of_solid some solid, ← ih,
          ← List.nil_append (c :: behind), words_append_cons space]
        rfl

theorem dropWhile_opens (taken : Char → Bool) (text : List Char) :
    text.dropWhile taken = [] ∨
      ∃ c rest, text.dropWhile taken = c :: rest ∧ taken c = false := by
  induction text with
  | nil => exact .inl rfl
  | cons c rest ih =>
      cases goes : taken c with
      | true =>
          rw [List.dropWhile_cons_of_pos goes]
          exact ih
      | false =>
          rw [List.dropWhile_cons_of_neg (by simp [goes])]
          exact .inr ⟨c, rest, rfl, goes⟩

theorem exists_spaced (line : List Char)
    (opens : line = [] ∨ ∃ c rest, line = c :: rest ∧ isBlank c = true) :
    ∃ made, Spaced line made := by
  have gapBlank : ∀ c ∈ line.takeWhile isBlank, isBlank c = true :=
    fun c member => List.mem_takeWhile_imp member
  have parts : line.takeWhile isBlank ++ line.dropWhile isBlank = line :=
    List.takeWhile_append_dropWhile
  rcases dropWhile_opens isBlank line with none | ⟨c, rest, behind, solid⟩
  · rw [none, List.append_nil] at parts
    rw [← parts]
    exact ⟨[], .blank gapBlank⟩
  · have apart : line.takeWhile isBlank ≠ [] := by
      intro none
      rw [none, List.nil_append, behind] at parts
      rcases opens with empty | ⟨first, later, begins, blank⟩
      · cases empty.symm.trans parts.symm
      · cases begins.symm.trans parts.symm
        cases solid.symm.trans blank
    have wordParts :
        c :: rest.takeWhile (!isBlank ·) ++ rest.dropWhile (!isBlank ·) = c :: rest := by
      rw [List.cons_append, List.takeWhile_append_dropWhile]
    have wordSolid : ∀ d ∈ c :: rest.takeWhile (!isBlank ·), isBlank d = false := by
      refine List.forall_mem_cons.mpr ⟨solid, fun d member => ?_⟩
      simpa using List.mem_takeWhile_imp member
    have shorter : (rest.dropWhile (!isBlank ·)).length < line.length := by
      have lengths := congrArg List.length parts
      have fewer : (rest.dropWhile (!isBlank ·)).length ≤ rest.length :=
        (List.dropWhile_sublist _).length_le
      rw [List.length_append, behind, List.length_cons] at lengths
      omega
    -- what is left behind the first word is shorter, and opens with a blank if at all
    obtain ⟨words, others⟩ := exists_spaced (rest.dropWhile (!isBlank ·)) <| by
      rcases dropWhile_opens (!isBlank ·) rest with none | ⟨d, later, begins, blank⟩
      · exact .inl none
      · exact .inr ⟨d, later, begins, by simpa using blank⟩
    rw [← parts, behind, ← wordParts, ← List.append_assoc]
    exact ⟨_, .word apart gapBlank (List.cons_ne_nil _ _) wordSolid others⟩
termination_by line.length

theorem spaced_words {line : List Char} (opens : ∃ c rest, line = c :: rest ∧ isBlank c = true) :
    Spaced line (words line) := by
  obtain ⟨made, spaced⟩ := exists_spaced line (.inr opens)
  rw [spaced.words_eq]
  exact spaced

/-! ### Blanks at the ends -/

theorem exists_trimEnd (text : List Char) :
    ∃ tail, text = trimEnd text ++ tail ∧ ∀ c ∈ tail, isBlank c = true :=
  ⟨text.rtakeWhile isBlank, List.rdropWhile_append_rtakeWhile.symm,
    fun _ member => List.mem_rtakeWhile_imp member⟩

theorem trimEnd_concat_of_blank {c : Char} (blank : isBlank c = true) (text : List Char) :
    trimEnd (text ++ [c]) = trimEnd text :=
  List.rdropWhile_concat_pos isBlank text c blank

theorem trimEnd_concat_of_solid {c : Char} (solid : isBlank c = false) (text : List Char) :
    trimEnd (text ++ [c]) = text ++ [c] :=
  List.rdropWhile_concat_neg isBlank text c (by simp [solid])

/-- A line ends in a character that is not blank, but for the blanks behind it. -/
theorem getLast_trimEnd_iff {c : Char} (solid : isBlank c = false) (line : List Char) :
    (trimEnd line).getLast? = some c ↔
      ∃ front gap, line = front ++ c :: gap ∧ ∀ d ∈ gap, isBlank d = true := by
  constructor
  · intro ends
    obtain ⟨front, kept⟩ := List.getLast?_eq_some_iff.mp ends
    obtain ⟨gap, parts, blank⟩ := exists_trimEnd line
    rw [kept, List.append_assoc] at parts
    exact ⟨front, gap, parts, blank⟩
  · rintro ⟨front, gap, rfl, blank⟩
    induction gap using List.reverseRecOn with
    | nil => rw [trimEnd_concat_of_solid solid, List.getLast?_concat]
    | append_singleton gap d ih =>
        obtain ⟨earlier, last⟩ := List.forall_mem_append.mp blank
        rw [← List.cons_append, ← List.append_assoc,
          trimEnd_concat_of_blank (last d List.mem_cons_self)]
        exact ih earlier

theorem prefix_trimEnd {front : List Char} (solid : ∀ c ∈ front, isBlank c = false)
    (rest : List Char) : front <+: trimEnd (front ++ rest) := by
  induction rest using List.reverseRecOn with
  | nil =>
      have whole : trimEnd front = front :=
        List.rdropWhile_eq_self_iff.mpr fun some => by simp [solid _ (List.getLast_mem some)]
      exact ⟨[], by rw [List.append_nil, whole]⟩
  | append_singleton rest c ih =>
      rw [← List.append_assoc]
      cases ends : isBlank c with
      | true =>
          rw [trimEnd_concat_of_blank ends]
          exact ih
      | false =>
          rw [trimEnd_concat_of_solid ends, List.append_assoc]
          exact List.prefix_append front (rest ++ [c])

theorem prefix_trim_iff {phrase line : List Char} (some : phrase ≠ [])
    (solid : ∀ c ∈ phrase, isBlank c = false) :
    phrase <+: trim line ↔
      ∃ gap rest, line = gap ++ phrase ++ rest ∧ ∀ c ∈ gap, isBlank c = true := by
  constructor
  · rintro ⟨rest, parts⟩
    obtain ⟨tail, ends, -⟩ := exists_trimEnd (trimStart line)
    refine ⟨line.takeWhile isBlank, rest ++ tail, ?_, fun c member => List.mem_takeWhile_imp member⟩
    calc line
        = line.takeWhile isBlank ++ trimStart line := List.takeWhile_append_dropWhile.symm
      _ = line.takeWhile isBlank ++ (trim line ++ tail) := congrArg _ ends
      _ = line.takeWhile isBlank ++ phrase ++ (rest ++ tail) := by
          rw [← parts, List.append_assoc, List.append_assoc]
  · rintro ⟨gap, rest, rfl, blank⟩
    have start : trimStart (gap ++ phrase ++ rest) = phrase ++ rest := by
      obtain ⟨c, later, rfl⟩ := List.exists_cons_of_ne_nil some
      rw [trimStart, List.append_assoc, List.dropWhile_append_of_pos blank, List.cons_append,
        List.dropWhile_cons_of_neg (by simp [solid c List.mem_cons_self])]
    rw [trim, start]
    exact prefix_trimEnd solid rest

end PackageProvider.Text
