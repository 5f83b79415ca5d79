import PackageProvider.Proofs.Text.LetterCase
import PackageProvider.Proofs.Text.Lines

set_option autoImplicit false

/-! Phrases in a text whatever its letter case. A phrase is found in a text if it is found in one of
its lines, and in whichever lower case the text is searched. -/

namespace PackageProvider.Text

structure IsPhrase (phrase : List Char) : Prop where
  some : phrase ≠ []
  ascii : ∀ c ∈ phrase, c.toNat < 128
  noNewline : '\n' ∉ phrase
  noReturn : '\r' ∉ phrase

theorem isPhrase_iff {phrase : List Char} :
    IsPhrase phrase ↔
      phrase ≠ [] ∧ phrase.all (fun c => c.toNat < 128) = true ∧ '\n' ∉ phrase ∧
        '\r' ∉ phrase := by
  simp only [List.all_eq_true, decide_eq_true_eq]
  constructor
  · intro ⟨holds, ascii, noNewline, noReturn⟩
    exact ⟨holds, ascii, noNewline, noReturn⟩
  · intro ⟨holds, ascii, noNewline, noReturn⟩
    exact ⟨holds, ascii, noNewline, noReturn⟩

instance (phrase : List Char) : Decidable (IsPhrase phrase) :=
  decidable_of_iff _ isPhrase_iff.symm

/-! ### Lines -/

theorem lower_append (before after : List Char) :
    lower (before ++ after) = lower before ++ lower after :=
  List.flatMap_append

theorem infix_lower_splitWhere_iff {phrase : List Char} (single : '\n' ∉ phrase)
    (text : List Char) :
    phrase <:+: lower text ↔ ∃ piece ∈ splitWhere (· == '\n') text, phrase <:+: lower piece := by
  by_cases newline : '\n' ∈ text
  · obtain ⟨line, rest, parts, alone⟩ := List.eq_append_cons_of_mem newline
    have shorter : rest.length < text.length := by
      rw [parts, List.length_append, List.length_cons]
      omega
    have lowered : lower text = lower line ++ '\n' :: lower rest := by
      rw [parts, lower_append, lower_cons]
      rfl
    rw [lowered, infix_append_cons_iff single, infix_lower_splitWhere_iff single rest, parts,
      splitWhere_append_cons (by decide), splitWhere_of_single alone]
    simp only [List.singleton_append, List.exists_mem_cons_iff]
  · rw [splitWhere_of_single newline]
    simp only [List.exists_mem_cons_iff, List.not_mem_nil, false_and, exists_false, or_false]
termination_by text.length

theorem infix_lower_dropReturn_iff {phrase : List Char} (isPhrase : IsPhrase phrase)
    (line : List Char) : phrase <:+: lower (dropReturn line) ↔ phrase <:+: lower line := by
  by_cases ends : line.getLast? = some '\r'
  · obtain ⟨front, rfl⟩ := List.getLast?_eq_some_iff.mp ends
    have lowered : lower (front ++ ['\r']) = lower front ++ '\r' :: [] := lower_append front ['\r']
    rw [dropReturn_concat, lowered, infix_append_cons_iff isPhrase.noReturn, List.infix_nil]
    exact (or_iff_left isPhrase.some).symm
  · rw [dropReturn_of_plain ends]

theorem infix_lower_closeLines_iff {phrase : List Char} (isPhrase : IsPhrase phrase)
    (pieces : List (List Char)) :
    (∃ line ∈ closeLines pieces, phrase <:+: lower line) ↔
      ∃ piece ∈ pieces, phrase <:+: lower piece := by
  fun_induction closeLines pieces with
  | case1 => rfl
  | case2 last empty =>
      have nowhere : ¬ phrase <:+: lower last := by
        rw [List.isEmpty_iff.mp empty]
        exact fun found => isPhrase.some (List.infix_nil.mp found)
      simp only [List.exists_mem_cons_iff, nowhere, List.not_mem_nil, false_and, exists_false,
        or_false]
  | case3 last some => rfl
  | case4 line rest several ih =>
      rw [List.exists_mem_cons_iff, List.exists_mem_cons_iff, ih,
        infix_lower_dropReturn_iff isPhrase]

/-- Whether a phrase is in a text in lower case is a matter of its lines alone. -/
theorem infix_lower_lines_iff {phrase : List Char} (isPhrase : IsPhrase phrase)
    (text : List Char) :
    phrase <:+: lower text ↔ ∃ line ∈ lines text, phrase <:+: lower line := by
  rw [lines, infix_lower_closeLines_iff isPhrase,
    infix_lower_splitWhere_iff isPhrase.noNewline]

/-! ### Letter case -/

theorem toLower_of_not_ascii {c : Char} (outside : 128 ≤ c.toNat) : c.toLower = c := by
  have noLetter : ¬ ('A'.toNat ≤ c.toNat ∧ c.toNat ≤ 'Z'.toNat) := by
    have last : 'Z'.toNat = 90 := rfl
    omega
  exact dif_neg noLetter

theorem lowerChar_of_ascii {c : Char} (ascii : c.toNat < 128) : lowerChar c = [c.toLower] := by
  rw [lowerChar, if_neg, if_neg]
  all_goals
    rintro rfl
    exact absurd ascii (by decide)

theorem lowerChar_of_other {c : Char} (outside : 128 ≤ c.toNat) (noKelvin : c ≠ '\u212A')
    (noDotted : c ≠ '\u0130') : lowerChar c = [c] := by
  rw [lowerChar, if_neg noKelvin, if_neg noDotted, toLower_of_not_ascii outside]

theorem lowerChar_toLower (c : Char) : lowerChar c.toLower = lowerChar c := by
  by_cases ascii : c.toNat < 128
  · have codes : ∀ code < 128,
        lowerChar (Char.ofNat code).toLower = lowerChar (Char.ofNat code) := by
      decide
    have same := codes c.toNat ascii
    rwa [Char.ofNat_toNat] at same
  · rw [toLower_of_not_ascii (Nat.le_of_not_lt ascii)]

theorem lower_map_toLower (text : List Char) : lower (text.map Char.toLower) = lower text := by
  rw [lower, List.flatMap_map, lower]
  simp only [lowerChar_toLower]

/-- A lower case of a text. Letters outside ASCII may have any lower case outside ASCII, also one
that depends on their neighbours, but for the two that have an ASCII letter in theirs. -/
inductive LowerCase : List Char → List Char → Prop where
  | nothing : LowerCase [] []
  | ascii {c : Char} {text lowered : List Char} (ascii : c.toNat < 128)
      (others : LowerCase text lowered) : LowerCase (c :: text) (c.toLower :: lowered)
  | kelvin {text lowered : List Char} (others : LowerCase text lowered) :
      LowerCase ('\u212A' :: text) ('k' :: lowered)
  | dotted {text lowered : List Char} (others : LowerCase text lowered) :
      LowerCase ('\u0130' :: text) ('i' :: '\u0307' :: lowered)
  | other {c : Char} {written text lowered : List Char} (outside : 128 ≤ c.toNat)
      (noKelvin : c ≠ '\u212A') (noDotted : c ≠ '\u0130') (some : written ≠ [])
      (writtenOutside : ∀ d ∈ written, 128 ≤ d.toNat) (others : LowerCase text lowered) :
      LowerCase (c :: text) (written ++ lowered)

theorem lowerCase_lower (text : List Char) : LowerCase text (lower text) := by
  induction text with
  | nil => exact .nothing
  | cons c text ih =>
      rw [lower_cons]
      by_cases ascii : c.toNat < 128
      · rw [lowerChar_of_ascii ascii]
        exact .ascii ascii ih
      · have outside := Nat.le_of_not_lt ascii
        by_cases kelvin : c = '\u212A'
        · subst kelvin
          exact .kelvin ih
        · by_cases dotted : c = '\u0130'
          · subst dotted
            exact .dotted ih
          · rw [lowerChar_of_other outside kelvin dotted]
            have still : ∀ d ∈ [c], 128 ≤ d.toNat := List.forall_mem_singleton.mpr outside
            exact .other outside kelvin dotted (List.cons_ne_nil c []) still ih

theorem infix_append_iff_of_apart {phrase apart : List Char} (some : apart ≠ [])
    (outside : ∀ c ∈ apart, c ∉ phrase) (before after : List Char) :
    phrase <:+: before ++ (apart ++ after) ↔ phrase <:+: before ∨ phrase <:+: after := by
  induction apart generalizing before with
  | nil => exact (some rfl).elim
  | cons c apart ih =>
      obtain ⟨here, later⟩ := List.forall_mem_cons.mp outside
      rw [List.cons_append, infix_append_cons_iff here]
      cases apart with
      | nil => rfl
      | cons d apart =>
          have further := ih (List.cons_ne_nil d apart) later []
          rw [List.nil_append] at further
          rw [further]
          constructor
          · rintro (early | none | late)
            · exact .inl early
            · rw [List.infix_nil.mp none]
              exact .inl (List.nil_infix)
            · exact .inr late
          · exact Or.imp_right .inr

theorem IsPhrase.not_mem_of_not_ascii {phrase : List Char} (isPhrase : IsPhrase phrase) {c : Char}
    (outside : 128 ≤ c.toNat) : c ∉ phrase :=
  fun member => absurd (isPhrase.ascii c member) (Nat.not_lt_of_le outside)

/-- Whichever way letters outside ASCII are lowered, the same phrases are found. -/
theorem LowerCase.infix_iff {phrase text lowered : List Char} (isPhrase : IsPhrase phrase)
    (lowers : LowerCase text lowered) : phrase <:+: lowered ↔ phrase <:+: lower text := by
  -- what stands before grows by ASCII characters and starts anew behind any other
  suffices found : ∀ front, phrase <:+: front ++ lowered ↔ phrase <:+: front ++ lower text from
    found []
  induction lowers with
  | nothing => exact fun front => .rfl
  | @ascii c text lowered ascii _ ih =>
      intro front
      have step := ih (front ++ [c.toLower])
      rw [List.append_assoc, List.append_assoc] at step
      rw [lower_cons, lowerChar_of_ascii ascii]
      exact step
  | @kelvin text lowered _ ih =>
      intro front
      have step := ih (front ++ ['k'])
      rw [List.append_assoc, List.append_assoc] at step
      exact step
  | @dotted text lowered _ ih =>
      intro front
      have mark : '\u0307' ∉ phrase := isPhrase.not_mem_of_not_ascii (by decide)
      have lowerText : front ++ lower ('\u0130' :: text) =
          (front ++ ['i']) ++ '\u0307' :: lower text := by
        rw [lower_cons, List.append_assoc]
        rfl
      have lowerOther : front ++ 'i' :: '\u0307' :: lowered =
          (front ++ ['i']) ++ '\u0307' :: lowered := by
        rw [List.append_assoc]
        rfl
      rw [lowerText, lowerOther, infix_append_cons_iff mark, infix_append_cons_iff mark]
      exact or_congr_right (ih [])
  | @other c written text lowered outside noKelvin noDotted some writtenOutside _ ih =>
      intro front
      have apart : ∀ d ∈ written, d ∉ phrase :=
        fun d member => isPhrase.not_mem_of_not_ascii (writtenOutside d member)
      rw [lower_cons, lowerChar_of_other outside noKelvin noDotted,
        infix_append_iff_of_apart some apart, List.singleton_append,
        infix_append_cons_iff (isPhrase.not_mem_of_not_ascii outside)]
      exact or_congr_right (ih [])

end PackageProvider.Text
