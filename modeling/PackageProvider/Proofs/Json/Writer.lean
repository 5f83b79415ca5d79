import Mathlib.Tactic.SplitIfs
import PackageProvider.Json.Writer
import PackageProvider.Proofs.Json.Reader

set_option autoImplicit false

/-! Values as they are written: each is on one line and is read back. Numbers are left out;
nothing that is written here has any. -/

namespace PackageProvider.Json

open Token (Mark Quotes Spells Word)

namespace Value

inductive Numberless : Value → Prop where
  | null : Numberless .null
  | bool (value : Bool) : Numberless (.bool value)
  | string (text : String) : Numberless (.string text)
  | array {items : List Value} (each : ∀ item ∈ items, item.Numberless) : Numberless (.array items)
  | object {entries : List (String × Value)} (each : ∀ entry ∈ entries, entry.2.Numberless) :
      Numberless (.object entries)

end Value

/-! ### One line -/

theorem newline_not_mem_writeChar (c : Char) : '\n' ∉ writeChar c := by
  have noDigit (value : Nat) : hexDigit value ≠ '\n' := by
    have digits : ∀ digit < 16, Nat.digitChar digit ≠ '\n' := by decide
    exact digits _ (Nat.mod_lt value (by decide))
  unfold writeChar
  split_ifs with quote backslash backspace formFeed newline <;> simp
  · exact ⟨(noDigit _).symm, (noDigit _).symm⟩
  · exact Ne.symm newline

theorem newline_not_mem_writeString (text : String) : '\n' ∉ writeString text := by
  simp only [writeString, List.mem_cons, List.mem_append, List.mem_flatMap, not_or, not_exists,
    not_and]
  exact ⟨by decide, fun c _ => newline_not_mem_writeChar c, by decide⟩

theorem newline_not_mem_writeItems {items : List Value}
    (each : ∀ item ∈ items, '\n' ∉ item.write) : '\n' ∉ writeItems items := by
  induction items with
  | nil => decide
  | cons item rest ih =>
      have here := each item List.mem_cons_self
      have later := ih fun other member => each other (List.mem_cons_of_mem item member)
      cases rest with
      | nil => simp [writeItems, here]
      | cons next rest => simp [writeItems, here, later]

theorem newline_not_mem_writeEntries {entries : List (String × Value)}
    (each : ∀ entry ∈ entries, '\n' ∉ entry.2.write) : '\n' ∉ writeEntries entries := by
  induction entries with
  | nil => decide
  | cons entry rest ih =>
      obtain ⟨key, value⟩ := entry
      have named := newline_not_mem_writeString key
      have here := each (key, value) List.mem_cons_self
      have later := ih fun other member => each other (List.mem_cons_of_mem _ member)
      cases rest with
      | nil => simp [writeEntries, named, here]
      | cons next rest => simp [writeEntries, named, here, later]

theorem Value.Numberless.newline_not_mem_write {value : Value} (numberless : value.Numberless) :
    '\n' ∉ value.write := by
  induction numberless with
  | null => decide
  | bool value => cases value <;> decide
  | string text => exact newline_not_mem_writeString text
  | array each ih =>
      rw [write, List.mem_cons, not_or]
      exact ⟨by decide, newline_not_mem_writeItems ih⟩
  | object each ih =>
      rw [write, List.mem_cons, not_or]
      exact ⟨by decide, newline_not_mem_writeEntries ih⟩

/-! ### Strings -/

theorem unit?_hexDigit {code : Nat} (control : code < 0x20) :
    Token.unit? '0' '0' (hexDigit (code / 16)) (hexDigit code) = some code := by
  have each : ∀ code < 0x20,
      Token.unit? '0' '0' (hexDigit (code / 16)) (hexDigit code) = some code := by decide
  exact each code control

theorem quotes_writeChar_append (c : Char) {spelled text : List Char}
    (others : Quotes spelled text) : Quotes (writeChar c ++ spelled) (c :: text) := by
  unfold writeChar
  split_ifs with quote backslash backspace formFeed newline carriage tab control
  · subst quote
    exact .short rfl others
  · subst backslash
    exact .short rfl others
  · subst backspace
    exact .short rfl others
  · subst formFeed
    exact .short rfl others
  · subst newline
    exact .short rfl others
  · subst carriage
    exact .short rfl others
  · subst tab
    exact .short rfl others
  · have alone : Token.isLeading c.toNat = false ∧ Token.isTrailing c.toNat = false := by
      simp only [Token.isLeading, Token.isTrailing, Bool.and_eq_false_iff, decide_eq_false_iff_not]
      omega
    have spelledOut := Quotes.unit (unit?_hexDigit control) alone.1 alone.2 others
    rwa [Char.ofNat_toNat] at spelledOut
  · exact .plain quote backslash (Nat.le_of_not_lt control) others

theorem quotes_flatMap_writeChar (text : List Char) : Quotes (text.flatMap writeChar) text := by
  induction text with
  | nil => exact .nothing
  | cons c text ih => exact quotes_writeChar_append c ih

theorem spells_writeString (text : String) {rest : List Char} {tokens : List Token}
    (others : Spells rest tokens) :
    Spells (writeString text ++ rest) (.string text :: tokens) := by
  have quoted := Spells.string (quotes_flatMap_writeChar text.toList) others
  rw [String.ofList_toList] at quoted
  rwa [writeString, List.cons_append, List.append_assoc]

/-! ### Values -/

namespace Value

/-- However the text goes on, the value as it is written spells the value's tokens. -/
def IsSpelled (value : Value) : Prop :=
  ∀ {rest : List Char} {tokens : List Token}, Spells rest tokens →
    Spells (value.write ++ rest) (value.tokens ++ tokens)

end Value

open Value (IsSpelled)

theorem spells_furtherItems {item : Value} {items : List Value} (first : item.IsSpelled)
    (each : ∀ other ∈ items, other.IsSpelled) {rest : List Char} {tokens : List Token}
    (others : Spells rest tokens) :
    Spells (writeItems (item :: items) ++ rest)
      (item.tokens ++ (furtherItems items ++ tokens)) := by
  induction items generalizing item with
  | nil =>
      rw [writeItems, List.append_assoc]
      exact first (.mark .closeArray others)
  | cons next items ih =>
      have later := ih (each next List.mem_cons_self) fun other member =>
        each other (List.mem_cons_of_mem next member)
      rw [writeItems, List.append_assoc, List.cons_append, furtherItems, List.cons_append,
        List.append_assoc]
      · exact first (.mark .comma later)
      · intro same
        cases same

theorem spells_furtherEntries {key : String} {value : Value} {entries : List (String × Value)}
    (first : value.IsSpelled) (each : ∀ other ∈ entries, other.2.IsSpelled) {rest : List Char}
    {tokens : List Token} (others : Spells rest tokens) :
    Spells (writeEntries ((key, value) :: entries) ++ rest)
      (.string key :: .colon :: (value.tokens ++ (furtherEntries entries ++ tokens))) := by
  induction entries generalizing key value with
  | nil =>
      rw [writeEntries, List.append_assoc, List.cons_append, List.append_assoc]
      exact spells_writeString key (.mark .colon (first (.mark .closeObject others)))
  | cons next entries ih =>
      have later := @ih next.1 next.2 (each next List.mem_cons_self) fun other member =>
        each other (List.mem_cons_of_mem next member)
      rw [writeEntries, List.append_assoc, List.cons_append, List.append_assoc, List.cons_append,
        furtherEntries, List.cons_append, List.cons_append, List.cons_append, List.append_assoc]
      · exact spells_writeString key (.mark .colon (first (.mark .comma later)))
      · intro same
        cases same

namespace Value

theorem Numberless.isSpelled {value : Value} (numberless : value.Numberless) :
    value.IsSpelled := by
  induction numberless with
  | null => exact fun others => .word .null others
  | bool value =>
      intro rest tokens others
      cases value with
      | true => exact .word .yes others
      | false => exact .word .no others
  | string text => exact fun others => spells_writeString text others
  | @array items each ih =>
      intro rest tokens others
      cases items with
      | nil => exact .mark .openArray (.mark .closeArray others)
      | cons item items =>
          have inside := spells_furtherItems (ih item List.mem_cons_self)
            (fun other member => ih other (List.mem_cons_of_mem item member)) others
          rw [write, Value.tokens, List.cons_append, List.cons_append, List.append_assoc]
          exact .mark .openArray inside
  | @object entries each ih =>
      intro rest tokens others
      cases entries with
      | nil => exact .mark .openObject (.mark .closeObject others)
      | cons entry entries =>
          have inside := @spells_furtherEntries entry.1 entry.2 entries
            (ih entry List.mem_cons_self)
            (fun other member => ih other (List.mem_cons_of_mem entry member)) _ _ others
          rw [write, Value.tokens, List.cons_append, List.cons_append, List.cons_append,
            List.cons_append, List.append_assoc]
          exact .mark .openObject inside

theorem depth_array_le {items : List Value} {bound : Nat}
    (each : ∀ item ∈ items, item.depth ≤ bound) : (array items).depth ≤ bound + 1 := by
  have within : depthOfItems items ≤ bound := by
    induction items with
    | nil => exact Nat.zero_le bound
    | cons item rest ih =>
        exact Nat.max_le.mpr ⟨each item List.mem_cons_self,
          ih fun other member => each other (List.mem_cons_of_mem item member)⟩
  exact Nat.succ_le_succ within

theorem depth_object_le {entries : List (String × Value)} {bound : Nat}
    (each : ∀ entry ∈ entries, entry.2.depth ≤ bound) : (object entries).depth ≤ bound + 1 := by
  have within : depthOfEntries entries ≤ bound := by
    induction entries with
    | nil => exact Nat.zero_le bound
    | cons entry rest ih =>
        exact Nat.max_le.mpr ⟨each entry List.mem_cons_self,
          ih fun other member => each other (List.mem_cons_of_mem entry member)⟩
  exact Nat.succ_le_succ within

theorem parse_write {value : Value} (numberless : value.Numberless)
    (shallow : value.depth ≤ Reading.depthLimit) {blanks : List Char}
    (blank : Spells blanks []) : parse (value.write ++ blanks) = some value.sorted := by
  have spelled := numberless.isSpelled blank
  rw [List.append_nil] at spelled
  have writes : Writes (String.ofList (value.write ++ blanks)) value :=
    ⟨by rwa [String.toList_ofList], shallow⟩
  have read := writes.parse_eq
  rwa [String.toList_ofList] at read

end Value

end PackageProvider.Json
