import PackageProvider.Text.Pieces

set_option autoImplicit false

/-! What cutting a text keeps: no piece holds a mark, texts that a mark joins are cut one by one,
and a phrase without the mark is found in one of them. -/

namespace PackageProvider.Text

variable {cut : Char → Bool}

theorem splitWhere_cons_of_mark {c : Char} (mark : cut c = true) (rest : List Char) :
    splitWhere cut (c :: rest) = [] :: splitWhere cut rest := by
  rw [splitWhere, if_pos mark]

theorem exists_splitWhere (cut : Char → Bool) (text : List Char) :
    ∃ first others, splitWhere cut text = first :: others := by
  cases text with
  | nil => exact ⟨[], [], rfl⟩
  | cons c rest =>
      rw [splitWhere]
      split
      · exact ⟨_, _, rfl⟩
      · split <;> exact ⟨_, _, rfl⟩

theorem splitWhere_cons_of_plain {c : Char} {rest first : List Char} {others : List (List Char)}
    (plain : cut c = false) (pieces : splitWhere cut rest = first :: others) :
    splitWhere cut (c :: rest) = (c :: first) :: others := by
  rw [splitWhere, if_neg (by simp [plain]), pieces]

theorem splitWhere_append_cons {c : Char} (mark : cut c = true) (before after : List Char) :
    splitWhere cut (before ++ c :: after) = splitWhere cut before ++ splitWhere cut after := by
  induction before with
  | nil => exact splitWhere_cons_of_mark mark after
  | cons next rest ih =>
      rw [List.cons_append]
      cases marks : cut next with
      | true =>
          rw [splitWhere_cons_of_mark marks, splitWhere_cons_of_mark marks, ih, List.cons_append]
      | false =>
          obtain ⟨first, others, pieces⟩ := exists_splitWhere cut rest
          rw [pieces, List.cons_append] at ih
          rw [splitWhere_cons_of_plain marks ih, splitWhere_cons_of_plain marks pieces,
            List.cons_append]

theorem splitWhere_of_plain {text : List Char} (plain : ∀ c ∈ text, cut c = false) :
    splitWhere cut text = [text] := by
  induction text with
  | nil => rfl
  | cons c rest ih =>
      obtain ⟨here, later⟩ := List.forall_mem_cons.mp plain
      exact splitWhere_cons_of_plain here (ih later)

theorem plain_of_mem_splitWhere {text piece : List Char} (member : piece ∈ splitWhere cut text) :
    ∀ c ∈ piece, cut c = false := by
  induction text generalizing piece with
  | nil =>
      rw [List.mem_singleton.mp member]
      exact fun c impossible => nomatch impossible
  | cons next rest ih =>
      cases marks : cut next with
      | true =>
          rw [splitWhere_cons_of_mark marks] at member
          rcases List.mem_cons.mp member with empty | later
          · rw [empty]
            exact fun c impossible => nomatch impossible
          · exact ih later
      | false =>
          obtain ⟨first, others, pieces⟩ := exists_splitWhere cut rest
          rw [splitWhere_cons_of_plain marks pieces] at member
          rw [pieces] at ih
          rcases List.mem_cons.mp member with longer | later
          · rw [longer]
            exact List.forall_mem_cons.mpr ⟨marks, ih List.mem_cons_self⟩
          · exact ih (List.mem_cons_of_mem first later)

theorem cutFirst?_of_not_mem {mark : Char} {text : List Char} (none : mark ∉ text) :
    cutFirst? mark text = .none := by
  induction text with
  | nil => rfl
  | cons c rest ih =>
      rw [List.mem_cons, not_or] at none
      obtain ⟨other, later⟩ := none
      rw [cutFirst?, if_neg (Ne.symm other), ih later]
      rfl

theorem cutFirst?_append_cons {mark : Char} {before : List Char} (first : mark ∉ before)
    (after : List Char) : cutFirst? mark (before ++ mark :: after) = some (before, after) := by
  induction before with
  | nil => exact if_pos rfl
  | cons c before ih =>
      rw [List.mem_cons, not_or] at first
      obtain ⟨other, later⟩ := first
      rw [List.cons_append, cutFirst?, if_neg (Ne.symm other), ih later]
      rfl

theorem append_of_cutLast? {mark : Char} {text before after : List Char}
    (cut : cutLast? mark text = some (before, after)) : text = before ++ mark :: after := by
  induction text generalizing before with
  | nil => cases cut
  | cons c rest ih =>
      rw [cutLast?] at cut
      cases later : cutLast? mark rest with
      | some parts =>
          rw [later] at cut
          cases cut
          rw [ih later, List.cons_append]
      | none =>
          rw [later] at cut
          by_cases here : c = mark
          · rw [if_pos here] at cut
            cases cut
            rw [here, List.nil_append]
          · rw [if_neg here] at cut
            cases cut

theorem prefix_of_prefix_append_cons {mark : Char} {phrase : List Char} (single : mark ∉ phrase)
    (before : List Char) {after : List Char} (found : phrase <+: before ++ mark :: after) :
    phrase <+: before := by
  have marked : before ++ [mark] <+: before ++ mark :: after :=
    (List.prefix_append_right_inj before).mpr (List.prefix_append [mark] after)
  rcases List.prefix_or_prefix_of_prefix found marked with short | long
  · rcases List.prefix_concat_iff.mp short with same | within
    · exact (single (same ▸ List.mem_append_right before List.mem_cons_self)).elim
    · exact within
  · exact (single (long.subset (List.mem_append_right before List.mem_cons_self))).elim

/-- A phrase without the mark does not reach over it. -/
theorem infix_append_cons_iff {mark : Char} {phrase : List Char} (single : mark ∉ phrase)
    (before after : List Char) :
    phrase <:+: before ++ mark :: after ↔ phrase <:+: before ∨ phrase <:+: after := by
  constructor
  · intro found
    induction before with
    | nil =>
        rcases List.infix_cons_iff.mp found with opens | later
        · exact .inl (prefix_of_prefix_append_cons single [] opens).isInfix
        · exact .inr later
    | cons c before ih =>
        rcases List.infix_cons_iff.mp found with opens | later
        · exact .inl (prefix_of_prefix_append_cons single (c :: before) opens).isInfix
        · exact (ih later).imp_left List.infix_cons
  · rintro (early | late)
    · exact early.trans (List.prefix_append before _).isInfix
    · exact late.trans (List.suffix_append_of_suffix (List.suffix_cons mark after)).isInfix

theorem occurs_iff {phrase text : List Char} : occurs phrase text = true ↔ phrase <:+: text := by
  induction text with
  | nil => rw [occurs, List.isEmpty_iff, List.infix_nil]
  | cons c rest ih =>
      rw [occurs, Bool.or_eq_true, List.isPrefixOf_iff_prefix, ih, List.infix_cons_iff]

end PackageProvider.Text
