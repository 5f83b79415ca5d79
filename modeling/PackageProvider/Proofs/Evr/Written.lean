import PackageProvider.Proofs.Evr.Order
import PackageProvider.Proofs.Text.Pieces

set_option autoImplicit false

/-! EVRs as texts. What is written of an EVR is read as that EVR, unless its epoch is zero and
the rest of it looks as if it began with an epoch. -/

namespace PackageProvider.Evr

/-- Whether a text opens with what is read as an epoch: digits, or nothing, before a colon. -/
def OpensWithEpoch (text : List Char) : Prop :=
  ∃ digits rest, text = digits ++ ':' :: rest ∧ ∀ c ∈ digits, c.isDigit = true

theorem colon_not_mem_digits {digits : List Char} (allDigits : ∀ c ∈ digits, c.isDigit = true) :
    ':' ∉ digits := by
  intro member
  have impossible := allDigits ':' member
  revert impossible
  decide

theorem ofChars_of_opens {digits : List Char} (allDigits : ∀ c ∈ digits, c.isDigit = true)
    (rest : List Char) : ofChars (digits ++ ':' :: rest) = withEpoch (epochOf digits) rest := by
  rw [ofChars, Text.cutFirst?_append_cons (colon_not_mem_digits allDigits)]
  exact if_pos (List.all_eq_true.mpr allDigits)

theorem ofChars_of_not_opens {text : List Char} (plain : ¬ OpensWithEpoch text) :
    ofChars text = withEpoch 0 text := by
  rw [ofChars]
  by_cases colon : ':' ∈ text
  · obtain ⟨before, after, rfl, first⟩ := List.eq_append_cons_of_mem colon
    rw [Text.cutFirst?_append_cons first]
    refine if_neg fun allDigits => plain ?_
    exact ⟨before, after, rfl, List.all_eq_true.mp allDigits⟩
  · rw [Text.cutFirst?_of_not_mem colon]

theorem epoch_withEpoch (epoch : UInt64) (text : List Char) :
    (withEpoch epoch text).epoch = epoch := by
  rw [withEpoch]
  cases Text.cutLast? '-' text <;> rfl

theorem versionRelease_withEpoch (epoch : UInt64) (text : List Char) :
    (withEpoch epoch text).versionRelease = text := by
  rw [withEpoch]
  cases cut : Text.cutLast? '-' text with
  | none => rfl
  | some parts => exact (Text.append_of_cutLast? cut).symm

theorem exists_withEpoch (text : List Char) :
    ∃ rest, ofChars text = withEpoch (ofChars text).epoch rest ∧
      (rest = text ∧ ¬ OpensWithEpoch text ∨
        ∃ digits, text = digits ++ ':' :: rest ∧ ∀ c ∈ digits, c.isDigit = true) := by
  by_cases opens : OpensWithEpoch text
  · obtain ⟨digits, rest, rfl, allDigits⟩ := opens
    refine ⟨rest, ?_, .inr ⟨digits, rfl, allDigits⟩⟩
    rw [ofChars_of_opens allDigits, epoch_withEpoch]
  · refine ⟨text, ?_, .inl ⟨rfl, opens⟩⟩
    rw [ofChars_of_not_opens opens, epoch_withEpoch]

theorem number_repr (value : Nat) : number value.repr.toList = value := by
  have reads := Nat.ofDigitChars_toDigits (b := 10) (n := value) (by decide) (by decide)
  rw [Nat.ofDigitChars_eq_foldl] at reads
  rw [Nat.toList_repr, number]
  simpa only [Nat.mul_comm] using reads

theorem epochOf_repr (epoch : UInt64) : epochOf epoch.toNat.repr.toList = epoch := by
  rw [epochOf, number_repr, if_pos epoch.toNat_lt_size]
  exact UInt64.ofNat_toNat

theorem isDigit_of_mem_repr {value : Nat} {c : Char} (member : c ∈ value.repr.toList) :
    c.isDigit = true := by
  rw [Nat.toList_repr] at member
  exact Nat.isDigit_of_mem_toDigits (by decide) (by decide) member

theorem ofChars_toChars_of_epoch {epoch : UInt64} (some : epoch ≠ 0) (text : List Char) :
    ofChars (withEpoch epoch text).toChars = withEpoch epoch text := by
  rw [toChars, epoch_withEpoch, if_neg some, versionRelease_withEpoch,
    ofChars_of_opens fun c member => isDigit_of_mem_repr member, epochOf_repr]

theorem toChars_withEpoch_zero (text : List Char) : (withEpoch 0 text).toChars = text := by
  rw [toChars, epoch_withEpoch, if_pos rfl, versionRelease_withEpoch]

theorem ofChars_eq_withEpoch_zero_iff {text : List Char} :
    ofChars text = withEpoch 0 text ↔ ¬ OpensWithEpoch text := by
  constructor
  · intro same opens
    obtain ⟨digits, rest, rfl, allDigits⟩ := opens
    rw [ofChars_of_opens allDigits] at same
    -- What is left behind the colon is shorter than the whole text.
    have shorter := congrArg (fun evr => evr.versionRelease.length) same
    simp only [versionRelease_withEpoch, List.length_append, List.length_cons] at shorter
    omega
  · exact ofChars_of_not_opens

theorem not_opensWithEpoch_of_not_mem {text : List Char} (none : ':' ∉ text) :
    ¬ OpensWithEpoch text := by
  intro opens
  obtain ⟨digits, rest, rfl, _⟩ := opens
  exact none (List.mem_append_right digits List.mem_cons_self)

theorem ofChars_toChars_iff (text : List Char) :
    ofChars (ofChars text).toChars = ofChars text ↔
      0 < (ofChars text).epoch ∨ ¬ OpensWithEpoch (ofChars text).toChars := by
  obtain ⟨rest, parts, _⟩ := exists_withEpoch text
  generalize (ofChars text).epoch = epoch at parts ⊢
  rw [parts]
  by_cases none : epoch = 0
  · subst none
    rw [toChars_withEpoch_zero, ofChars_eq_withEpoch_zero_iff]
    simp
  · have positive : 0 < epoch := UInt64.pos_iff_ne_zero.mpr none
    simp only [ofChars_toChars_of_epoch none, positive, true_or]

theorem not_opensWithEpoch_toChars {text : List Char} (single : text.count ':' ≤ 1)
    (none : (ofChars text).epoch = 0) : ¬ OpensWithEpoch (ofChars text).toChars := by
  obtain ⟨rest, parts, behind⟩ := exists_withEpoch text
  rw [none] at parts
  rw [parts, toChars_withEpoch_zero]
  rcases behind with ⟨rfl, plain⟩ | ⟨digits, rfl, _⟩
  · exact plain
  · apply not_opensWithEpoch_of_not_mem
    rw [List.count_append, List.count_cons_self] at single
    exact List.count_eq_zero.mp (by omega)

/-- What is written of an EVR is read as the same EVR, part by part, where the text has one colon
at most; with more of them there may be digits before a colon where an epoch of zero was. -/
theorem ofString_toString_iff (text : String) :
    let evr := ofString text
    let written := toString evr
    (ofString written = evr ↔ 0 < evr.epoch ∨ ¬ OpensWithEpoch written.toList) ∧
      (text.toList.count ':' ≤ 1 →
        ofString written = evr ∧ compare (ofString text) (ofString written) = .eq) := by
  intro evr written
  have shown : written.toList = evr.toChars := String.toList_ofList
  have sameIff : ofString written = evr ↔ 0 < evr.epoch ∨ ¬ OpensWithEpoch written.toList := by
    rw [ofString, shown]
    exact ofChars_toChars_iff text.toList
  refine ⟨sameIff, ?_⟩
  intro single
  have same : ofString written = evr := by
    rw [sameIff, shown]
    by_cases none : evr.epoch = 0
    · exact .inr (not_opensWithEpoch_toChars single none)
    · exact .inl (UInt64.pos_iff_ne_zero.mpr none)
  refine ⟨same, ?_⟩
  rw [same]
  exact Std.ReflCmp.compare_self

/-- The epoch does not fit into 64 bits, and the version has a dash. -/
theorem longEpoch_ofString_toString :
    let text := "99999999999999999999:1.0-rc1-2"
    text.toList.count ':' ≤ 1 ∧ toString (ofString text) = "1.0-rc1-2" ∧
      ofString (toString (ofString text)) = ofString text := by
  have single : "99999999999999999999:1.0-rc1-2".toList.count ':' ≤ 1 := by decide
  refine ⟨single, ?_, ?_⟩
  · decide
  · exact ((ofString_toString_iff _).2 single).1

/-- Behind an epoch that counts as zero other digits before a colon are read as the epoch. -/
example : ofString (toString (ofString "0:1:2-3")) ≠ ofString "0:1:2-3" := by decide

end PackageProvider.Evr
