import Mathlib.Data.List.TakeWhile
import PackageProvider.Json.Token

set_option autoImplicit false

/-! Texts that spell tokens. A text may spell a token in many ways, and each of them is read as
that token. -/

namespace PackageProvider.Json.Token

open Number (Numeral)

/-! ### Strings -/

/-- What stands between the quotes, and the text that it stands for. -/
inductive Quotes : List Char → List Char → Prop where
  | nothing : Quotes [] []
  | plain {c : Char} {spelled text : List Char} (quote : c ≠ '"') (backslash : c ≠ '\\')
      (printable : 0x20 ≤ c.toNat) (others : Quotes spelled text) :
      Quotes (c :: spelled) (c :: text)
  | short {mark c : Char} {spelled text : List Char} (means : escaped? mark = some c)
      (others : Quotes spelled text) : Quotes ('\\' :: mark :: spelled) (c :: text)
  | unit {a b c d : Char} {code : Nat} {spelled text : List Char}
      (means : unit? a b c d = some code) (noLeading : isLeading code = false)
      (noTrailing : isTrailing code = false) (others : Quotes spelled text) :
      Quotes ('\\' :: 'u' :: a :: b :: c :: d :: spelled) (Char.ofNat code :: text)
  | pair {a b c d e f g h : Char} {leading trailing : Nat} {spelled text : List Char}
      (first : unit? a b c d = some leading) (leads : isLeading leading = true)
      (second : unit? e f g h = some trailing) (trails : isTrailing trailing = true)
      (others : Quotes spelled text) :
      Quotes ('\\' :: 'u' :: a :: b :: c :: d :: '\\' :: 'u' :: e :: f :: g :: h :: spelled)
        (paired leading trailing :: text)

def isPlain (c : Char) : Bool := c != '"' && c != '\\' && 0x20 ≤ c.toNat

theorem Quotes.of_plain {text : List Char} (plain : text.all isPlain = true) :
    Quotes text text := by
  induction text with
  | nil => exact .nothing
  | cons c text ih =>
      rw [List.all_cons, Bool.and_eq_true] at plain
      obtain ⟨here, later⟩ := plain
      simp only [isPlain, Bool.and_eq_true, bne_iff_ne, decide_eq_true_eq] at here
      exact .plain here.1.1 here.1.2 here.2 (ih later)

theorem isTrailing_of_isLeading {code : Nat} (leads : isLeading code = true) :
    isTrailing code = false := by
  simp only [isLeading, isTrailing, Bool.and_eq_true, decide_eq_true_eq, Bool.and_eq_false_iff,
    decide_eq_false_iff_not] at *
  omega

theorem readString_plain {c : Char} (quote : c ≠ '"') (backslash : c ≠ '\\')
    (printable : 0x20 ≤ c.toNat) (rest : List Char) :
    readString (c :: rest) = (readString rest).map fun (text, rest) => (c :: text, rest) := by
  have allowed : (c == '\\' || c.toNat < 0x20) = false := by
    simp only [Bool.or_eq_false_iff, beq_eq_false_iff_ne, decide_eq_false_iff_not]
    exact ⟨backslash, by omega⟩
  rw [readString, allowed]
  · rfl
  · exact quote
  · intro _ _ _ _ _ same
    exact absurd same backslash
  · intro _ _ same
    exact absurd same backslash

theorem readString_short {mark c : Char} (means : escaped? mark = some c) (rest : List Char) :
    readString ('\\' :: mark :: rest) =
      (readString rest).map fun (text, rest) => (c :: text, rest) := by
  rw [readString, means]
  intro _ _ _ _ _ same
  cases same
  cases means

theorem readString_spelled {spelled text : List Char} (quotes : Quotes spelled text)
    (rest : List Char) : readString (spelled ++ '"' :: rest) = some (text, rest) := by
  induction quotes with
  | nothing => rfl
  | plain quote backslash printable _ ih =>
      rw [List.cons_append, readString_plain quote backslash printable, ih]
      rfl
  | short means _ ih =>
      rw [List.cons_append, List.cons_append, readString_short means, ih]
      rfl
  | unit means noLeading noTrailing _ ih =>
      simp only [List.cons_append]
      rw [readString, means]
      simp only [noLeading, noTrailing, ih]
      rfl
  | pair first leads second trails _ ih =>
      simp only [List.cons_append]
      rw [readString, first]
      simp only [isTrailing_of_isLeading leads, leads, second, trails, ih]
      rfl

/-! ### Numbers -/

structure AreDigits (chars : List Char) : Prop where
  some : chars ≠ []
  each : ∀ c ∈ chars, c.isDigit = true

inductive SpellsSign : List Char → Bool → Prop where
  | none : SpellsSign [] false
  | plus : SpellsSign ['+'] false
  | minus : SpellsSign ['-'] true

inductive SpellsFraction : List Char → Option (List Nat) → Prop where
  | none : SpellsFraction [] none
  | some {digits : List Char} (are : AreDigits digits) :
      SpellsFraction ('.' :: digits) (some (digitsOf digits))

inductive SpellsExponent : List Char → Option (Bool × List Nat) → Prop where
  | none : SpellsExponent [] none
  | some {mark : Char} {sign digits : List Char} {falls : Bool} (marked : mark = 'e' ∨ mark = 'E')
      (signed : SpellsSign sign falls) (are : AreDigits digits) :
      SpellsExponent (mark :: (sign ++ digits)) (some (falls, digitsOf digits))

/-- A number as it may be spelled. It does not start with a zero that is followed by digits. -/
inductive SpellsNumeral : List Char → Numeral → Prop where
  | parts {digits fraction exponent : List Char} {fractionDigits : Option (List Nat)}
      {power : Option (Bool × List Nat)} (negative : Bool) (are : AreDigits digits)
      (short : digits.length = 1 ∨ digits.head? ≠ some '0')
      (behind : SpellsFraction fraction fractionDigits) (raised : SpellsExponent exponent power) :
      SpellsNumeral
        ((if negative then ['-'] else []) ++ (digits ++ (fraction ++ exponent)))
        ⟨negative, digitsOf digits, fractionDigits, power⟩

def EndsNumber (rest : List Char) : Prop :=
  ∀ c ∈ rest.head?, isSpace c = true ∨ c = ',' ∨ c = ']' ∨ c = '\x7d'

theorem readDigits_append {digits rest : List Char} (each : ∀ c ∈ digits, c.isDigit = true)
    (ends : ∀ c ∈ rest.head?, c.isDigit = false) :
    readDigits (digits ++ rest) = (digitsOf digits, rest) := by
  rw [readDigits, List.takeWhile_append_of_pos each, List.dropWhile_append_of_pos each]
  cases rest with
  | nil => rw [List.takeWhile_nil, List.dropWhile_nil, List.append_nil]
  | cons c rest =>
      have stops : ¬ c.isDigit = true := by
        rw [ends c rfl]
        exact Bool.false_ne_true
      rw [List.takeWhile_cons_of_neg stops, List.dropWhile_cons_of_neg stops, List.append_nil]

theorem AreDigits.isEmpty_digitsOf {digits : List Char} (are : AreDigits digits) :
    (digitsOf digits).isEmpty = false := by
  rw [digitsOf, List.isEmpty_map]
  exact List.isEmpty_eq_false_iff.mpr are.some

theorem EndsNumber.cases_head {c : Char} {rest : List Char} (ends : EndsNumber (c :: rest)) :
    c.isDigit = false ∧ c ≠ '.' ∧ ¬ (c == 'e' || c == 'E') = true := by
  rcases ends c rfl with blank | rfl | rfl | rfl
  · simp only [isSpace, Bool.or_eq_true, beq_iff_eq] at blank
    rcases blank with ((rfl | rfl) | rfl) | rfl <;> decide
  all_goals decide

theorem EndsNumber.not_isDigit {rest : List Char} (ends : EndsNumber rest) :
    ∀ c ∈ rest.head?, c.isDigit = false := by
  cases rest with
  | nil => intro c none; cases none
  | cons c rest => intro d same; cases same; exact ends.cases_head.1

theorem AreDigits.exists_cons {digits : List Char} (are : AreDigits digits) :
    ∃ d more, digits = d :: more ∧ d.isDigit = true ∧ d ≠ '+' ∧ d ≠ '-' := by
  obtain ⟨d, more, rfl⟩ := List.exists_cons_of_ne_nil are.some
  have digit := are.each d List.mem_cons_self
  refine ⟨d, more, rfl, digit, ?_, ?_⟩
  all_goals
    rintro rfl
    exact absurd digit (by decide)

theorem readExponent_spelled {exponent rest : List Char} {power : Option (Bool × List Nat)}
    (raised : SpellsExponent exponent power) (ends : EndsNumber rest) :
    readExponent (exponent ++ rest) = some (power, rest) := by
  cases raised with
  | none =>
      cases rest with
      | nil => rfl
      | cons c rest => exact if_neg ends.cases_head.2.2
  | @some mark sign digits falls marked signed are =>
      have marks : (mark == 'e' || mark == 'E') = true := by
        rw [Bool.or_eq_true, beq_iff_eq, beq_iff_eq]
        exact marked
      have read := readDigits_append are.each ends.not_isDigit
      rw [List.cons_append, List.append_assoc]
      cases signed with
      | plus =>
          rw [List.cons_append, List.nil_append, readExponent, if_pos marks]
          simp only [read, are.isEmpty_digitsOf]
          rfl
      | minus =>
          rw [List.cons_append, List.nil_append, readExponent, if_pos marks]
          simp only [read, are.isEmpty_digitsOf]
          rfl
      | none =>
          obtain ⟨d, more, rfl, -, notPlus, notMinus⟩ := are.exists_cons
          rw [List.nil_append, readExponent, if_pos marks]
          · simp only [read, are.isEmpty_digitsOf]
            rfl
          · intro rest same; cases same; exact notPlus rfl
          · intro rest same; cases same; exact notMinus rfl

theorem readFraction_spelled {fraction rest : List Char} {digits : Option (List Nat)}
    (behind : SpellsFraction fraction digits) (unmarked : ∀ c ∈ rest.head?, c ≠ '.')
    (ends : ∀ c ∈ rest.head?, c.isDigit = false) :
    readFraction (fraction ++ rest) = some (digits, rest) := by
  cases behind with
  | none =>
      rw [List.nil_append, readFraction]
      intro others same
      rw [same] at unmarked
      exact unmarked '.' rfl rfl
  | some are =>
      rw [List.cons_append, readFraction, readDigits_append are.each ends]
      simp only [are.isEmpty_digitsOf]
      rfl

theorem SpellsExponent.opens {exponent rest : List Char} {power : Option (Bool × List Nat)}
    (raised : SpellsExponent exponent power) (ends : EndsNumber rest) :
    ∀ c ∈ (exponent ++ rest).head?, c.isDigit = false ∧ c ≠ '.' := by
  intro c first
  cases raised with
  | none =>
      cases rest with
      | nil => cases first
      | cons d rest => cases first; exact ⟨ends.cases_head.1, ends.cases_head.2.1⟩
  | some marked =>
      cases first
      rcases marked with rfl | rfl <;> decide

theorem SpellsFraction.opens {fraction rest : List Char} {digits : Option (List Nat)}
    (behind : SpellsFraction fraction digits) (ends : ∀ c ∈ rest.head?, c.isDigit = false) :
    ∀ c ∈ (fraction ++ rest).head?, c.isDigit = false := by
  cases behind with
  | none => exact ends
  | some => intro c first; cases first; decide

theorem head_digitsOf {digits : List Char} (are : AreDigits digits)
    (zero : (digitsOf digits).head? = some 0) : digits.head? = some '0' := by
  obtain ⟨d, more, rfl, digit, -⟩ := are.exists_cons
  have small : d.toNat - 48 = 0 := Option.some.inj zero
  have large : 48 ≤ d.toNat := by
    simp only [Char.isDigit, Bool.and_eq_true, decide_eq_true_eq, ge_iff_le] at digit
    exact digit.1
  have same : d = '0' := Char.toNat_inj.mp (show d.toNat = 48 by omega)
  rw [same, List.head?_cons]

theorem readNumber_spelled {spelled rest : List Char} {numeral : Numeral} {number : Number}
    (spells : SpellsNumeral spelled numeral) (means : Number.ofNumeral? numeral = some number)
    (ends : EndsNumber rest) : readNumber (spelled ++ rest) = some (number, rest) := by
  cases spells with
  | @parts digits fraction exponent fractionDigits power negative are short behind raised =>
      have opens := raised.opens ends
      have readWhole := readDigits_append are.each
        (behind.opens fun c first => (opens c first).1)
      have readBehind := readFraction_spelled behind (fun c first => (opens c first).2)
        (fun c first => (opens c first).1)
      have readRaised := readExponent_spelled raised ends
      have accepted : ((digitsOf digits).isEmpty ||
          ((digitsOf digits).length != 1 && (digitsOf digits).head? == some 0)) = false := by
        rw [are.isEmpty_digitsOf, Bool.false_or, Bool.and_eq_false_iff]
        rcases short with single | noZero
        · left
          rw [digitsOf, List.length_map, single]
          rfl
        · right
          rw [beq_eq_false_iff_ne]
          intro zero
          exact noZero (head_digitsOf are zero)
      simp only [List.append_assoc]
      cases negative with
      | true =>
          rw [if_pos rfl, List.singleton_append, readNumber]
          simp only [readWhole, accepted, readBehind, readRaised, means, Bool.false_eq_true,
            if_false, Option.bind_eq_bind, Option.bind_some]
          rfl
      | false =>
          obtain ⟨d, more, rfl, -, -, unsigned⟩ := are.exists_cons
          rw [if_neg Bool.false_ne_true, List.nil_append, readNumber]
          · simp only [readWhole, accepted, readBehind, readRaised, means, Bool.false_eq_true,
              if_false, Option.bind_eq_bind, Option.bind_some]
            rfl
          · intro rest same
            cases same
            exact unsigned rfl

/-! ### All tokens -/

inductive Mark : Char → Token → Prop where
  | openObject : Mark '\x7b' .openObject
  | closeObject : Mark '\x7d' .closeObject
  | openArray : Mark '[' .openArray
  | closeArray : Mark ']' .closeArray
  | comma : Mark ',' .comma
  | colon : Mark ':' .colon

inductive Word : List Char → Value → Prop where
  | null : Word ['n', 'u', 'l', 'l'] .null
  | yes : Word ['t', 'r', 'u', 'e'] (.bool true)
  | no : Word ['f', 'a', 'l', 's', 'e'] (.bool false)

inductive Spells : List Char → List Token → Prop where
  | nothing : Spells [] []
  | space {c : Char} {rest : List Char} {tokens : List Token} (blank : isSpace c = true)
      (others : Spells rest tokens) : Spells (c :: rest) tokens
  | mark {c : Char} {token : Token} {rest : List Char} {tokens : List Token} (mark : Mark c token)
      (others : Spells rest tokens) : Spells (c :: rest) (token :: tokens)
  | string {spelled text rest : List Char} {tokens : List Token} (quotes : Quotes spelled text)
      (others : Spells rest tokens) :
      Spells ('"' :: (spelled ++ '"' :: rest)) (.string (String.ofList text) :: tokens)
  | word {spelled rest : List Char} {value : Value} {tokens : List Token}
      (word : Word spelled value) (others : Spells rest tokens) :
      Spells (spelled ++ rest) (.atom value :: tokens)
  | number {spelled rest : List Char} {numeral : Numeral} {number : Number} {tokens : List Token}
      (spells : SpellsNumeral spelled numeral) (means : Number.ofNumeral? numeral = some number)
      (ends : EndsNumber rest) (others : Spells rest tokens) :
      Spells (spelled ++ rest) (.atom (.number number) :: tokens)

theorem Mark.read_eq {c : Char} {token : Token} (mark : Mark c token) (rest : List Char) :
    read (c :: rest) = some (token, rest) ∧ isSpace c = false := by
  cases mark <;> exact ⟨rfl, rfl⟩

theorem Word.read_eq {spelled : List Char} {value : Value} (word : Word spelled value)
    (rest : List Char) :
    read (spelled ++ rest) = some (.atom value, rest) ∧
      ∃ c more, spelled = c :: more ∧ isSpace c = false := by
  cases word <;> exact ⟨rfl, _, _, rfl, rfl⟩

theorem SpellsNumeral.exists_cons {spelled : List Char} {numeral : Numeral}
    (spells : SpellsNumeral spelled numeral) :
    ∃ c more, spelled = c :: more ∧ (c = '-' ∨ c.isDigit = true) := by
  cases spells with
  | @parts digits fraction exponent _ _ negative are =>
      obtain ⟨d, more, rfl, digit, -⟩ := are.exists_cons
      cases negative with
      | true => exact ⟨_, _, rfl, .inl rfl⟩
      | false => exact ⟨_, _, rfl, .inr digit⟩

theorem read_number {c : Char} (starts : c = '-' ∨ c.isDigit = true) (rest : List Char) :
    read (c :: rest) =
      (readNumber (c :: rest)).map fun (number, rest) => (atom (.number number), rest) := by
  unfold read
  split
  case h_11 => rfl
  -- a number starts with none of the characters that other tokens start with
  all_goals
    next same =>
      cases same
      rcases starts with same | digit
      · exact absurd same (by decide)
      · exact absurd digit (by decide)

theorem not_isSpace_of_number {c : Char} (starts : c = '-' ∨ c.isDigit = true) :
    isSpace c = false := by
  rcases starts with rfl | digit
  · rfl
  · cases blank : isSpace c with
    | false => rfl
    | true =>
        simp only [isSpace, Bool.or_eq_true, beq_iff_eq] at blank
        rcases blank with ((rfl | rfl) | rfl) | rfl <;> exact absurd digit (by decide)

theorem readAll_space {c : Char} (blank : isSpace c = true) (fuel : Nat) (rest : List Char) :
    readAll fuel (c :: rest) = readAll fuel rest := by
  rw [readAll.eq_def, readAll.eq_def fuel rest]
  dsimp only
  rw [List.dropWhile_cons_of_pos blank]

theorem readAll_token {c : Char} {rest behind : List Char} {token : Token}
    (solid : isSpace c = false) (reads : read (c :: rest) = some (token, behind)) (fuel : Nat) :
    readAll (fuel + 1) (c :: rest) = (readAll fuel behind).map (token :: ·) := by
  rw [readAll.eq_def]
  dsimp only
  rw [List.dropWhile_cons_of_neg (by rw [solid]; exact Bool.false_ne_true)]
  simp only [reads, Option.bind_eq_bind, Option.bind_some]
  cases readAll fuel behind with
  | none => rfl
  | some tokens => rfl

/-- A step of reading at a spelled token, as long as there is fuel for what is left. -/
theorem readAll_of_read {c : Char} {rest behind : List Char} {token : Token} {tokens : List Token}
    (solid : isSpace c = false) (reads : read (c :: rest) = some (token, behind))
    (shorter : behind.length ≤ rest.length)
    (others : ∀ fuel, behind.length ≤ fuel → readAll fuel behind = some tokens) {fuel : Nat}
    (enough : (c :: rest).length ≤ fuel) : readAll fuel (c :: rest) = some (token :: tokens) := by
  rw [List.length_cons] at enough
  cases fuel with
  | zero => omega
  | succ fuel =>
      rw [readAll_token solid reads, others fuel (by omega)]
      rfl

theorem readAll_spelled {text : List Char} {tokens : List Token} (spells : Spells text tokens) :
    ∀ fuel, text.length ≤ fuel → readAll fuel text = some tokens := by
  induction spells with
  | nothing =>
      intro fuel _
      rw [readAll.eq_def]
      rfl
  | space blank _ ih =>
      intro fuel enough
      rw [readAll_space blank]
      exact ih fuel (Nat.le_of_succ_le enough)
  | @mark c token rest tokens mark _ ih =>
      intro fuel enough
      obtain ⟨reads, solid⟩ := mark.read_eq rest
      exact readAll_of_read solid reads le_rfl ih enough
  | @string spelled text rest tokens quotes _ ih =>
      intro fuel enough
      have reads : read ('"' :: (spelled ++ '"' :: rest)) =
          some (.string (String.ofList text), rest) := by
        rw [read, readString_spelled quotes]
        rfl
      apply readAll_of_read rfl reads _ ih enough
      rw [List.length_append, List.length_cons]
      omega
  | @word spelled rest value tokens word _ ih =>
      intro fuel enough
      obtain ⟨reads, c, more, rfl, solid⟩ := word.read_eq rest
      exact readAll_of_read solid reads (List.suffix_append more rest).length_le ih enough
  | @number spelled rest numeral number tokens spells means ends _ ih =>
      intro fuel enough
      have number := readNumber_spelled spells means ends
      obtain ⟨c, more, rfl, starts⟩ := spells.exists_cons
      have reads := read_number starts (more ++ rest)
      rw [← List.cons_append, number] at reads
      exact readAll_of_read (not_isSpace_of_number starts) reads
        (List.suffix_append more rest).length_le ih enough

theorem tokens_spelled {text : List Char} {tokens : List Token} (spells : Spells text tokens) :
    Token.tokens text = some tokens :=
  readAll_spelled spells text.length le_rfl

end PackageProvider.Json.Token
