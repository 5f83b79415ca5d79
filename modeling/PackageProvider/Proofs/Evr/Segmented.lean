import PackageProvider.Proofs.Evr.Order

set_option autoImplicit false

/-! What a version is made of, said as a reading from left to right, and the order of versions
as the order of what they are made of, place by place. -/

namespace PackageProvider.Version

/-- A text read from left to right. A run is never cut short: what follows it is of another
kind. -/
inductive Segmented : List Char → List Segment → Prop where
  | ending : Segmented [] [.ending]
  | separator {c : Char} {rest : List Char} {read : List Segment} (notTilde : c ≠ '~')
      (notCaret : c ≠ '^') (notDigit : c.isDigit = false) (notLetter : c.isAlpha = false)
      (onward : Segmented rest read) : Segmented (c :: rest) read
  | tilde {rest : List Char} {read : List Segment} (onward : Segmented rest read) :
      Segmented ('~' :: rest) (.tilde :: read)
  | caret {rest : List Char} {read : List Segment} (onward : Segmented rest read) :
      Segmented ('^' :: rest) (.caret :: read)
  | number {run rest : List Char} {read : List Segment} (nonempty : run ≠ [])
      (digits : ∀ c ∈ run, c.isDigit = true) (maximal : ∀ c ∈ rest.head?, c.isDigit = false)
      (onward : Segmented rest read) :
      Segmented (run ++ rest) (.number (Evr.number run) :: read)
  | letters {run rest : List Char} {read : List Segment} (nonempty : run ≠ [])
      (letters : ∀ c ∈ run, c.isAlpha = true) (maximal : ∀ c ∈ rest.head?, c.isAlpha = false)
      (onward : Segmented rest read) :
      Segmented (run ++ rest) (.letters run :: read)

variable {test : Char → Bool} {run rest text : List Char} {read : List Segment} {c : Char}

theorem takeWhile_of_maximal (passes : ∀ c ∈ run, test c = true)
    (maximal : ∀ c ∈ rest.head?, test c = false) : (run ++ rest).takeWhile test = run := by
  rw [List.takeWhile_append_of_pos passes]
  cases rest with
  | nil => exact List.append_nil run
  | cons next rest =>
      have ends : ¬ test next = true := by
        rw [maximal next rfl]
        exact Bool.false_ne_true
      rw [List.takeWhile_cons_of_neg ends, List.append_nil]

theorem dropWhile_of_maximal (passes : ∀ c ∈ run, test c = true)
    (maximal : ∀ c ∈ rest.head?, test c = false) : (run ++ rest).dropWhile test = rest := by
  rw [List.dropWhile_append_of_pos passes]
  cases rest with
  | nil => rfl
  | cons next rest =>
      have ends : ¬ test next = true := by
        rw [maximal next rfl]
        exact Bool.false_ne_true
      exact List.dropWhile_cons_of_neg ends

theorem maximal_dropWhile (test : Char → Bool) (text : List Char) :
    ∀ c ∈ (text.dropWhile test).head?, test c = false := by
  intro c atHead
  have stops := List.head?_dropWhile_not test text
  rw [atHead] at stops
  exact stops

theorem ne_mark_of_isAlphanum (runs : c.isAlphanum = true) : c ≠ '~' ∧ c ≠ '^' := by
  constructor
  · intro same
    subst same
    cases runs
  · intro same
    subst same
    cases runs

theorem segments_of_number (nonempty : run ≠ []) (digits : ∀ c ∈ run, c.isDigit = true)
    (maximal : ∀ c ∈ rest.head?, c.isDigit = false) :
    segments (run ++ rest) = .number (Evr.number run) :: segments rest := by
  cases run with
  | nil => exact (nonempty rfl).elim
  | cons first more =>
      have digit := digits first List.mem_cons_self
      have runs : first.isAlphanum = true := by rw [Char.isAlphanum, digit, Bool.or_true]
      obtain ⟨notTilde, notCaret⟩ := ne_mark_of_isAlphanum runs
      have others : ∀ c ∈ more, c.isDigit = true :=
        fun c member => digits c (List.mem_cons_of_mem first member)
      rw [List.cons_append, segments, if_neg notTilde, if_neg notCaret, if_pos digit,
        takeWhile_of_maximal others maximal, dropWhile_of_maximal others maximal]

theorem segments_of_letters (nonempty : run ≠ []) (letters : ∀ c ∈ run, c.isAlpha = true)
    (maximal : ∀ c ∈ rest.head?, c.isAlpha = false) :
    segments (run ++ rest) = .letters run :: segments rest := by
  cases run with
  | nil => exact (nonempty rfl).elim
  | cons first more =>
      have letter := letters first List.mem_cons_self
      have runs : first.isAlphanum = true := by rw [Char.isAlphanum, letter, Bool.true_or]
      obtain ⟨notTilde, notCaret⟩ := ne_mark_of_isAlphanum runs
      have notDigit := isDigit_eq_false_of_isAlpha letter
      have others : ∀ c ∈ more, c.isAlpha = true :=
        fun c member => letters c (List.mem_cons_of_mem first member)
      rw [List.cons_append, segments, if_neg notTilde, if_neg notCaret, notDigit,
        if_neg Bool.false_ne_true, if_pos letter, takeWhile_of_maximal others maximal,
        dropWhile_of_maximal others maximal]

theorem Segmented.eq_segments (reads : Segmented text read) : read = segments text := by
  induction reads with
  | ending => rw [segments]
  | separator notTilde notCaret notDigit notLetter _ ih =>
      rw [ih, segments, if_neg notTilde, if_neg notCaret, notDigit, notLetter]
      rfl
  | tilde _ ih =>
      rw [ih, segments]
      rfl
  | caret _ ih =>
      rw [ih, segments]
      rfl
  | number nonempty digits maximal _ ih => rw [ih, segments_of_number nonempty digits maximal]
  | letters nonempty letters maximal _ ih => rw [ih, segments_of_letters nonempty letters maximal]

theorem segmented_segments (text : List Char) : Segmented text (segments text) := by
  fun_induction segments text with
  | case1 => exact .ending
  | case2 rest ih => exact .tilde ih
  | case3 rest _ ih => exact .caret ih
  | case4 c rest _ _ digit ih =>
      have reads := Segmented.number (List.cons_ne_nil _ _) (passes_cons_takeWhile digit rest)
        (maximal_dropWhile Char.isDigit rest) ih
      rwa [List.cons_append, List.takeWhile_append_dropWhile] at reads
  | case5 c rest _ _ _ letter ih =>
      have reads := Segmented.letters (List.cons_ne_nil _ _) (passes_cons_takeWhile letter rest)
        (maximal_dropWhile Char.isAlpha rest) ih
      rwa [List.cons_append, List.takeWhile_append_dropWhile] at reads
  | case6 c rest notTilde notCaret notDigit notLetter ih =>
      rw [Bool.not_eq_true] at notDigit notLetter
      exact .separator notTilde notCaret notDigit notLetter ih

theorem segmented_iff : Segmented text read ↔ read = segments text := by
  constructor
  · exact Segmented.eq_segments
  · intro same
    rw [same]
    exact segmented_segments text

/-- Each text has one reading, and two versions compare as their readings do, place by place:
`~` before the end, the end before `^`, this before all letters, and letters before numbers. -/
theorem compare_eq_compareLex :
    (∀ text read, Segmented text read ↔ read = segments text) ∧
    (∀ left right, compare left right =
      List.compareLex Segment.compare (segments left) (segments right)) ∧
    IsTotalPreorder Segment.compare ∧
    (∀ run value, Segment.compare .tilde .ending = .lt ∧ Segment.compare .ending .caret = .lt ∧
      Segment.compare .caret (.letters run) = .lt ∧
      Segment.compare (.letters run) (.number value) = .lt) ∧
    (∀ first second, Segment.compare (.letters first) (.letters second) =
      Ord.compare first second) ∧
    ∀ first second, Segment.compare (.number first) (.number second) =
      Ord.compare first second := by
  refine ⟨fun text read => segmented_iff, compare_eq_compareSegments,
    isTotalPreorder_of_transCmp _, fun run value => ⟨rfl, rfl, rfl, rfl⟩,
    Segment.compare_letters, Segment.compare_number⟩

/-- Leading zeros do not count, and a character outside ASCII parts runs like any other. -/
example : segments "1.05é3~rc".toList =
    [.number 1, .number 5, .number 3, .tilde, .letters ['r', 'c'], .ending] := by
  cbv

end PackageProvider.Version
