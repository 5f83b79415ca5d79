import Mathlib.Algebra.Group.Nat.Defs
import PackageProvider.Evr.Order
import PackageProvider.Evr.Segment

set_option autoImplicit false

/-! Scanning two versions in step compares the lists of their segments. -/

namespace PackageProvider

namespace Evr

def digitValue (digit : Char) : Nat := digit.toNat - '0'.toNat

theorem foldl_digits (digits : List Char) (start : Nat) :
    digits.foldl (fun value digit => value * 10 + (digit.toNat - '0'.toNat)) start =
      start * 10 ^ digits.length + number digits := by
  induction digits generalizing start with
  | nil => simp [number]
  | cons digit rest ih =>
      rw [number, List.foldl_cons, List.foldl_cons, ih, ih (0 * 10 + _), List.length_cons,
        Nat.pow_succ]
      rw [Nat.add_mul, Nat.zero_mul, Nat.zero_add, ← Nat.add_assoc]
      rw [Nat.mul_assoc, Nat.mul_comm 10]

theorem number_cons (digit : Char) (rest : List Char) :
    number (digit :: rest) = digitValue digit * 10 ^ rest.length + number rest := by
  rw [number, List.foldl_cons, foldl_digits, Nat.zero_mul, Nat.zero_add]
  rfl

theorem toNat_of_isDigit {digit : Char} (isDigit : digit.isDigit = true) :
    48 ≤ digit.toNat ∧ digit.toNat ≤ 57 := by
  simp only [Char.isDigit, Bool.and_eq_true, decide_eq_true_eq, UInt32.le_iff_toNat_le] at isDigit
  exact isDigit

theorem digitValue_lt (digit : Char) (isDigit : digit.isDigit = true) : digitValue digit < 10 := by
  have bounds := toNat_of_isDigit isDigit
  have zero : '0'.toNat = 48 := rfl
  simp only [digitValue, zero]
  omega

theorem digitValue_lt_digitValue (first second : Char) (isDigit : first.isDigit = true)
    (lower : first.toNat < second.toNat) : digitValue first < digitValue second := by
  have bounds := toNat_of_isDigit isDigit
  have zero : '0'.toNat = 48 := rfl
  simp only [digitValue, zero]
  omega

theorem number_lt (digits : List Char) (allDigits : ∀ digit ∈ digits, digit.isDigit = true) :
    number digits < 10 ^ digits.length := by
  induction digits with
  | nil => exact Nat.one_pos
  | cons digit rest ih =>
      have below := ih fun other member => allDigits other (List.mem_cons_of_mem digit member)
      have small := digitValue_lt digit (allDigits digit List.mem_cons_self)
      rw [number_cons, List.length_cons, Nat.pow_succ]
      calc digitValue digit * 10 ^ rest.length + number rest
          < digitValue digit * 10 ^ rest.length + 10 ^ rest.length := by omega
        _ = (digitValue digit + 1) * 10 ^ rest.length := by rw [Nat.add_mul, Nat.one_mul]
        _ ≤ 10 * 10 ^ rest.length := Nat.mul_le_mul_right _ small
        _ = 10 ^ rest.length * 10 := Nat.mul_comm _ _

theorem number_cons_lt (first second : Char) (firstRest secondRest : List Char)
    (sameLength : firstRest.length = secondRest.length)
    (restDigits : ∀ digit ∈ firstRest, digit.isDigit = true)
    (lower : digitValue first < digitValue second) :
    number (first :: firstRest) < number (second :: secondRest) := by
  have bound := number_lt firstRest restDigits
  have scaled : (digitValue first + 1) * 10 ^ secondRest.length ≤
      digitValue second * 10 ^ secondRest.length := Nat.mul_le_mul_right _ lower
  rw [Nat.add_mul, Nat.one_mul] at scaled
  rw [sameLength] at bound
  rw [number_cons, number_cons, sameLength]
  omega

theorem number_dropWhile_zero (digits : List Char) :
    number (digits.dropWhile (· == '0')) = number digits := by
  induction digits with
  | nil => rfl
  | cons digit rest ih =>
      by_cases zero : digit = '0'
      · subst zero
        rw [List.dropWhile_cons_of_pos (by rfl), ih, number_cons]
        simp [digitValue]
      · rw [List.dropWhile_cons_of_neg (by simpa using zero)]

end Evr

namespace Segment

instance : Std.TransCmp compare :=
  inferInstanceAs (Std.TransCmp
    (compareLex (compareOn rank) (compareLex (compareOn value) (compareOn run))))

theorem compare_number (first second : Nat) :
    compare (.number first) (.number second) = Ord.compare first second := by
  simp [compare, compareLex, compareOn, rank, value, run]

theorem compare_letters (first second : List Char) :
    compare (.letters first) (.letters second) = Ord.compare first second := by
  simp [compare, compareLex, compareOn, rank, value, run]

end Segment

namespace Version

theorem compareLetters_eq (left right : List Char) :
    compareLetters left right = Ord.compare left right := by
  induction left generalizing right with
  | nil => cases right <;> rfl
  | cons a as ih =>
      cases right with
      | nil => rfl
      | cons b bs =>
          have sameOrder : Ord.compare a b = Ord.compare a.toNat b.toNat := by
            rw [Nat.compare_eq_ite_lt]
            simp only [Ord.compare, compareOfLessAndEq]
            by_cases lower : a < b
            · have : a.toNat < b.toNat := lower
              simp [lower, this]
            · have : ¬ a.toNat < b.toNat := lower
              by_cases same : a = b
              · simp [same]
              · have different : a.toNat ≠ b.toNat := fun equal => same (Char.toNat_inj.mp equal)
                have higher : b.toNat < a.toNat := by omega
                simp only [lower, same, this, higher, if_false, if_true]
          rw [compareLetters, ih, List.compare_cons_cons, sameOrder]

theorem compareLetters_of_length_eq (left right : List Char)
    (sameLength : left.length = right.length)
    (leftDigits : ∀ digit ∈ left, digit.isDigit = true)
    (rightDigits : ∀ digit ∈ right, digit.isDigit = true) :
    compareLetters left right = Ord.compare (Evr.number left) (Evr.number right) := by
  induction left generalizing right with
  | nil =>
      have empty : right = [] := List.eq_nil_of_length_eq_zero sameLength.symm
      subst empty
      rfl
  | cons a as ih =>
      cases right with
      | nil => cases sameLength
      | cons b bs =>
          have restLength : as.length = bs.length := Nat.succ.inj sameLength
          have restLeft := fun digit member => leftDigits digit (List.mem_cons_of_mem a member)
          have restRight := fun digit member => rightDigits digit (List.mem_cons_of_mem b member)
          have digitA := leftDigits a List.mem_cons_self
          have digitB := rightDigits b List.mem_cons_self
          rw [compareLetters, ih bs restLength restLeft restRight]
          rcases Nat.lt_trichotomy a.toNat b.toNat with lower | same | higher
          · have step := Evr.digitValue_lt_digitValue a b digitA lower
            have below := Evr.number_cons_lt a b as bs restLength restLeft step
            rw [Nat.compare_eq_lt.mpr lower, Nat.compare_eq_lt.mpr below]
            rfl
          · have equal : a = b := Char.toNat_inj.mp same
            rw [equal, Evr.number_cons, Evr.number_cons, restLength, Nat.compare_eq_eq.mpr rfl,
              Nat.compare_eq_ite_lt, Nat.compare_eq_ite_lt]
            simp only [Ordering.then, Nat.add_lt_add_iff_left]
          · have step := Evr.digitValue_lt_digitValue b a digitB higher
            have above := Evr.number_cons_lt b a bs as restLength.symm restRight step
            rw [Nat.compare_eq_gt.mpr higher, Nat.compare_eq_gt.mpr above]
            rfl

theorem number_lt_of_length_lt (shorter longer : List Char) (fewer : shorter.length < longer.length)
    (shortDigits : ∀ digit ∈ shorter, digit.isDigit = true)
    (longDigits : ∀ digit ∈ longer, digit.isDigit = true)
    (significant : ∀ digit, longer.head? = some digit → digit ≠ '0') :
    Evr.number shorter < Evr.number longer := by
  cases longer with
  | nil => cases fewer
  | cons first rest =>
      have bound := Evr.number_lt shorter shortDigits
      have notZero : '0'.toNat < first.toNat := by
        have bounds := Evr.toNat_of_isDigit (longDigits first List.mem_cons_self)
        have zero : '0'.toNat = 48 := rfl
        have different : first.toNat ≠ '0'.toNat :=
          fun equal => significant first rfl (Char.toNat_inj.mp equal)
        omega
      have positive := Evr.digitValue_lt_digitValue '0' first rfl notZero
      have atMost : 10 ^ shorter.length ≤ 10 ^ rest.length :=
        Nat.pow_le_pow_right (by decide) (Nat.le_of_lt_succ fewer)
      have leading : 1 * 10 ^ rest.length ≤ Evr.digitValue first * 10 ^ rest.length :=
        Nat.mul_le_mul_right _ (Nat.lt_of_le_of_lt (Nat.zero_le _) positive)
      rw [Evr.number_cons]
      omega

theorem compareDigits_eq (left right : List Char)
    (leftDigits : ∀ digit ∈ left, digit.isDigit = true)
    (rightDigits : ∀ digit ∈ right, digit.isDigit = true) :
    compareDigits left right = Ord.compare (Evr.number left) (Evr.number right) := by
  have significant (digits : List Char) (digit : Char)
      (atHead : (digits.dropWhile (· == '0')).head? = some digit) : digit ≠ '0' := by
    have notDropped := List.head?_dropWhile_not (· == '0') digits
    rw [atHead] at notDropped
    simpa using notDropped
  have stripped (digits : List Char) (allDigits : ∀ digit ∈ digits, digit.isDigit = true) :
      ∀ digit ∈ digits.dropWhile (· == '0'), digit.isDigit = true :=
    fun digit member => allDigits digit ((List.dropWhile_sublist _).subset member)
  rw [compareDigits, ← Evr.number_dropWhile_zero left, ← Evr.number_dropWhile_zero right]
  generalize leftAt : left.dropWhile (· == '0') = shortLeft
  generalize rightAt : right.dropWhile (· == '0') = shortRight
  have leftHead := significant left
  have rightHead := significant right
  have leftAll := stripped left leftDigits
  have rightAll := stripped right rightDigits
  rw [leftAt] at leftHead leftAll
  rw [rightAt] at rightHead rightAll
  -- Without leading zeros the number with fewer digits is the lower one.
  rcases Nat.lt_trichotomy shortLeft.length shortRight.length with fewer | same | more
  · have lower := number_lt_of_length_lt shortLeft shortRight fewer leftAll rightAll rightHead
    rw [Nat.compare_eq_lt.mpr fewer, Nat.compare_eq_lt.mpr lower]
    rfl
  · rw [Nat.compare_eq_eq.mpr same, compareLetters_of_length_eq _ _ same leftAll rightAll]
    rfl
  · have higher := number_lt_of_length_lt shortRight shortLeft more rightAll leftAll leftHead
    rw [Nat.compare_eq_gt.mpr more, Nat.compare_eq_gt.mpr higher]
    rfl

theorem isSeparator_eq_false_iff (c : Char) :
    isSeparator c = false ↔ c = '~' ∨ c = '^' ∨ c.isDigit = true ∨ c.isAlpha = true := by
  simp [isSeparator, Char.isAlphanum]
  grind

theorem segments_cons_separator (c : Char) (rest : List Char) (separates : isSeparator c = true) :
    segments (c :: rest) = segments rest := by
  simp only [isSeparator, Char.isAlphanum, Bool.not_eq_true', Bool.or_eq_false_iff,
    beq_eq_false_iff_ne] at separates
  obtain ⟨⟨⟨notAlpha, notDigit⟩, notTilde⟩, notCaret⟩ := separates
  rw [segments]
  simp [notTilde, notCaret, notDigit, notAlpha]

theorem segments_dropWhile (text : List Char) :
    segments (text.dropWhile isSeparator) = segments text := by
  induction text with
  | nil => rfl
  | cons c rest ih =>
      by_cases separates : isSeparator c = true
      · rw [List.dropWhile_cons_of_pos separates, ih, segments_cons_separator c rest separates]
      · rw [List.dropWhile_cons_of_neg separates]

theorem segments_of_ending {text : List Char} (dropped : text.dropWhile isSeparator = []) :
    segments text = [.ending] := by
  rw [← segments_dropWhile, dropped, segments]

theorem segments_of_tilde {text rest : List Char}
    (dropped : text.dropWhile isSeparator = '~' :: rest) :
    segments text = .tilde :: segments rest := by
  rw [← segments_dropWhile, dropped, segments]
  rfl

theorem segments_of_caret {text rest : List Char}
    (dropped : text.dropWhile isSeparator = '^' :: rest) :
    segments text = .caret :: segments rest := by
  rw [← segments_dropWhile, dropped, segments]
  rfl

def runSegment (c : Char) (rest : List Char) : Segment :=
  if c.isDigit then .number (Evr.number (c :: rest.takeWhile Char.isDigit))
  else .letters (c :: rest.takeWhile Char.isAlpha)

theorem isAlpha_of_opens {text rest : List Char} {c : Char}
    (dropped : text.dropWhile isSeparator = c :: rest) (notTilde : c ≠ '~') (notCaret : c ≠ '^')
    (notDigit : c.isDigit = false) : c.isAlpha = true := by
  have opens := List.head?_dropWhile_not isSeparator text
  rw [dropped] at opens
  have known := (isSeparator_eq_false_iff c).mp opens
  simpa [notTilde, notCaret, notDigit] using known

theorem segments_of_run {text rest : List Char} {c : Char}
    (dropped : text.dropWhile isSeparator = c :: rest) (notTilde : c ≠ '~') (notCaret : c ≠ '^') :
    segments text = runSegment c rest :: segments (rest.dropWhile (runOf c)) := by
  rw [← segments_dropWhile, dropped, segments, if_neg notTilde, if_neg notCaret, runOf, runSegment]
  cases digit : c.isDigit with
  | true => rfl
  | false =>
      have letter := isAlpha_of_opens dropped notTilde notCaret digit
      rw [if_neg Bool.false_ne_true, if_pos letter]
      rfl

/-- How a version opens when its leading separators are dropped, with its segments. -/
inductive Opening (text : List Char) : Prop where
  | ending (dropped : text.dropWhile isSeparator = []) (split : segments text = [.ending])
  | tilde (rest : List Char) (dropped : text.dropWhile isSeparator = '~' :: rest)
      (split : segments text = .tilde :: segments rest)
  | caret (rest : List Char) (dropped : text.dropWhile isSeparator = '^' :: rest)
      (split : segments text = .caret :: segments rest)
  | digits (c : Char) (rest : List Char) (dropped : text.dropWhile isSeparator = c :: rest)
      (digit : c.isDigit = true)
      (split : segments text = .number (Evr.number (c :: rest.takeWhile Char.isDigit))
        :: segments (rest.dropWhile Char.isDigit))
  | letters (c : Char) (rest : List Char) (dropped : text.dropWhile isSeparator = c :: rest)
      (letter : c.isAlpha = true) (notDigit : c.isDigit = false)
      (split : segments text = .letters (c :: rest.takeWhile Char.isAlpha)
        :: segments (rest.dropWhile Char.isAlpha))

theorem opening (text : List Char) : Opening text := by
  cases dropped : text.dropWhile isSeparator with
  | nil => exact .ending dropped (segments_of_ending dropped)
  | cons c rest =>
      by_cases tilde : c = '~'
      · subst tilde
        exact .tilde rest dropped (segments_of_tilde dropped)
      by_cases caret : c = '^'
      · subst caret
        exact .caret rest dropped (segments_of_caret dropped)
      have split := segments_of_run dropped tilde caret
      cases digit : c.isDigit with
      | true =>
          rw [runSegment, runOf, if_pos digit, if_pos digit] at split
          exact .digits c rest dropped digit split
      | false =>
          have letter := isAlpha_of_opens dropped tilde caret digit
          rw [runSegment, runOf, digit, if_neg Bool.false_ne_true, if_neg Bool.false_ne_true]
            at split
          exact .letters c rest dropped letter digit split

theorem isDigit_eq_false_of_isAlpha {c : Char} (letter : c.isAlpha = true) : c.isDigit = false := by
  have kinds : (decide (c.val ≥ 'A'.val ∧ c.val ≤ 'Z'.val) ||
      (c.val ≥ 'a'.val && c.val ≤ 'z'.val)) = true := letter
  have beyond : 57 < c.toNat := by
    simp only [Bool.or_eq_true, Bool.and_eq_true, decide_eq_true_eq, ge_iff_le,
      UInt32.le_iff_toNat_le] at kinds
    rcases kinds with upper | lower
    · exact Nat.lt_of_lt_of_le (by decide) upper.1
    · exact Nat.lt_of_lt_of_le (by decide) lower.1
  rw [Bool.eq_false_iff]
  intro digit
  have bounds := Evr.toNat_of_isDigit digit
  omega

theorem runOf_eq {c d : Char} (alike : runOf c d = true) : runOf d = runOf c := by
  cases digit : c.isDigit with
  | true =>
      have otherDigit : d.isDigit = true := by simpa [runOf, digit] using alike
      simp [runOf, digit, otherDigit]
  | false =>
      have letter : d.isAlpha = true := by simpa [runOf, digit] using alike
      simp [runOf, digit, isDigit_eq_false_of_isAlpha letter]

theorem passes_cons_takeWhile {test : Char → Bool} {c : Char} (passes : test c = true)
    (rest : List Char) : ∀ other ∈ c :: rest.takeWhile test, test other = true := by
  intro other member
  rcases List.mem_cons.mp member with same | later
  · rw [same]
    exact passes
  · exact List.all_eq_true.mp List.all_takeWhile other later

theorem compare_runSegment (c d : Char) (left right : List Char) (alike : runOf c d = true) :
    Segment.compare (runSegment c left) (runSegment d right) =
      if c.isDigit then
        compareDigits (c :: left.takeWhile (runOf c)) (d :: right.takeWhile (runOf c))
      else compareLetters (c :: left.takeWhile (runOf c)) (d :: right.takeWhile (runOf c)) := by
  cases digit : c.isDigit with
  | true =>
      have otherDigit : d.isDigit = true := by simpa [runOf, digit] using alike
      have kind : runOf c = Char.isDigit := by simp [runOf, digit]
      rw [runSegment, runSegment, if_pos digit, if_pos otherDigit, Segment.compare_number, kind,
        if_pos rfl, compareDigits_eq _ _ (passes_cons_takeWhile digit left)
          (passes_cons_takeWhile otherDigit right)]
  | false =>
      have letter : d.isAlpha = true := by simpa [runOf, digit] using alike
      have notDigit := isDigit_eq_false_of_isAlpha letter
      have kind : runOf c = Char.isAlpha := by simp [runOf, digit]
      rw [runSegment, runSegment, digit, notDigit, if_neg Bool.false_ne_true,
        if_neg Bool.false_ne_true, Segment.compare_letters, kind, if_neg Bool.false_ne_true,
        compareLetters_eq]

theorem scan_eq_compareSegments (left right : List Char) :
    scan left right = compareSegments left right := by
  unfold compareSegments
  fun_induction scan left right with
  | case1 left right leftRest rightRest atLeft atRight ih =>
      rw [segments_of_tilde atLeft, segments_of_tilde atRight, List.compareLex_cons_cons, ← ih]
      rfl
  | case2 left right leftRest atLeft notRight =>
      rw [segments_of_tilde atLeft]
      cases opening right with
      | tilde rest dropped => exact (notRight rest dropped).elim
      | ending dropped split => rw [split]; rfl
      | caret rest dropped split => rw [split]; rfl
      | digits c rest dropped digit split => rw [split]; rfl
      | letters c rest dropped letter notDigit split => rw [split]; rfl
  | case3 left right rightRest atRight notLeft =>
      rw [segments_of_tilde atRight]
      cases opening left with
      | tilde rest dropped => exact (notLeft rest dropped).elim
      | ending dropped split => rw [split]; rfl
      | caret rest dropped split => rw [split]; rfl
      | digits c rest dropped digit split => rw [split]; rfl
      | letters c rest dropped letter notDigit split => rw [split]; rfl
  | case4 left right leftRest rightRest atLeft atRight ih =>
      rw [segments_of_caret atLeft, segments_of_caret atRight, List.compareLex_cons_cons, ← ih]
      rfl
  | case5 left right rightRest atLeft atRight =>
      rw [segments_of_ending atLeft, segments_of_caret atRight]
      rfl
  | case6 left right leftRest atLeft atRight =>
      rw [segments_of_caret atLeft, segments_of_ending atRight]
      rfl
  | case7 left right leftRest atLeft notTilde notCaret notEnding =>
      rw [segments_of_caret atLeft]
      cases opening right with
      | tilde rest dropped => exact (notTilde rest dropped).elim
      | caret rest dropped => exact (notCaret rest dropped).elim
      | ending dropped => exact (notEnding dropped).elim
      | digits c rest dropped digit split => rw [split]; rfl
      | letters c rest dropped letter notDigit split => rw [split]; rfl
  | case8 left right rightRest atRight notTilde notCaret notEnding =>
      rw [segments_of_caret atRight]
      cases opening left with
      | tilde rest dropped => exact (notTilde rest dropped).elim
      | caret rest dropped => exact (notCaret rest dropped).elim
      | ending dropped => exact (notEnding dropped).elim
      | digits c rest dropped digit split => rw [split]; rfl
      | letters c rest dropped letter notDigit split => rw [split]; rfl
  | case9 left right atLeft atRight =>
      rw [segments_of_ending atLeft, segments_of_ending atRight]
      rfl
  | case10 left right c rightRest notTilde notCaret atLeft atRight =>
      rw [segments_of_ending atLeft, segments_of_run atRight notTilde notCaret, runSegment]
      cases c.isDigit <;> rfl
  | case11 left right c leftRest notTilde notCaret atLeft atRight =>
      rw [segments_of_run atLeft notTilde notCaret, segments_of_ending atRight, runSegment]
      cases c.isDigit <;> rfl
  | case12 left right c leftRest d rightRest _ tildeLeft tildeRight _ caretLeft caretRight
      atLeft atRight isRun unlike digit =>
      have notDigit : d.isDigit = false := by simpa [isRun, runOf, digit] using unlike
      rw [segments_of_run atLeft tildeLeft caretLeft, segments_of_run atRight tildeRight caretRight,
        runSegment, runSegment, digit, notDigit]
      rfl
  | case13 left right c leftRest d rightRest _ tildeLeft tildeRight _ caretLeft caretRight
      atLeft atRight isRun unlike notDigit =>
      have notLetter : ¬ d.isAlpha = true := by simpa [isRun, runOf, notDigit] using unlike
      have digit : d.isDigit = true := by
        cases digit : d.isDigit with
        | true => rfl
        | false => exact (notLetter (isAlpha_of_opens atRight tildeRight caretRight digit)).elim
      rw [segments_of_run atLeft tildeLeft caretLeft, segments_of_run atRight tildeRight caretRight,
        runSegment, runSegment, if_neg notDigit, if_pos digit]
      rfl
  | case14 left right c leftRest d rightRest _ tildeLeft tildeRight _ caretLeft caretRight
      atLeft atRight isRun alike compared same ih =>
      have kind : runOf c d = true := by simpa using alike
      rw [segments_of_run atLeft tildeLeft caretLeft, segments_of_run atRight tildeRight caretRight,
        List.compareLex_cons_cons, compare_runSegment c d _ _ kind, runOf_eq kind, ← ih]
      exact (congrArg (Ordering.then · _) same).symm
  | case15 left right c leftRest d rightRest _ tildeLeft tildeRight _ caretLeft caretRight
      atLeft atRight isRun alike compared differs =>
      have kind : runOf c d = true := by simpa using alike
      rw [segments_of_run atLeft tildeLeft caretLeft, segments_of_run atRight tildeRight caretRight,
        List.compareLex_cons_cons, compare_runSegment c d _ _ kind]
      change compared = Ordering.then compared _
      cases outcome : compared with
      | eq => exact (differs outcome).elim
      | lt => rfl
      | gt => rfl

end Version

end PackageProvider
