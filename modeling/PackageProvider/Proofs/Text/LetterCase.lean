import PackageProvider.Proofs.Text.Blank
import PackageProvider.Text.LetterCase

set_option autoImplicit false

/-! Finding a word at the start of a line whatever its letter case. -/

namespace PackageProvider.Text

/-- A lower case ASCII word without `k`, which is also the lower case of the Kelvin sign. It ends
in no `i` either, which is the start of the lower case of the dotted capital I. -/
structure Searchable (word : List Char) : Prop where
  ascii : ∀ c ∈ word, c.toNat < 128
  solid : ∀ c ∈ word, isBlank c = false
  noKelvin : 'k' ∉ word
  noDotted : word.getLast? ≠ some 'i'

theorem searchable_iff {word : List Char} :
    Searchable word ↔
      word.all (fun c => decide (c.toNat < 128) && !isBlank c) = true ∧ 'k' ∉ word ∧
        word.getLast? ≠ some 'i' := by
  simp only [List.all_eq_true, Bool.and_eq_true, decide_eq_true_eq, Bool.not_eq_true']
  constructor
  · rintro ⟨ascii, solid, noKelvin, noDotted⟩
    exact ⟨fun c member => ⟨ascii c member, solid c member⟩, noKelvin, noDotted⟩
  · rintro ⟨plain, noKelvin, noDotted⟩
    exact ⟨fun c member => (plain c member).1, fun c member => (plain c member).2, noKelvin,
      noDotted⟩

instance (word : List Char) : Decidable (Searchable word) :=
  decidable_of_iff _ searchable_iff.symm

theorem Searchable.tail {c : Char} {word : List Char} (searchable : Searchable (c :: word)) :
    Searchable word where
  ascii := fun d member => searchable.ascii d (List.mem_cons_of_mem c member)
  solid := fun d member => searchable.solid d (List.mem_cons_of_mem c member)
  noKelvin := fun member => searchable.noKelvin (List.mem_cons_of_mem c member)
  noDotted := by
    intro ends
    apply searchable.noDotted
    rw [List.getLast?_cons, ends]
    rfl

theorem lower_cons (c : Char) (text : List Char) : lower (c :: text) = lowerChar c ++ lower text :=
  List.flatMap_cons

/-- A letter whose lower case is more than one ASCII letter is passed over by the search, and no
such letter is spelled in a searchable word. -/
theorem prefix_lower_cons_iff {c d : Char} {word text : List Char}
    (searchable : Searchable (c :: word)) :
    c :: word <+: lower (d :: text) ↔ d.toLower = c ∧ word <+: lower text := by
  have small : c.toNat < 128 := searchable.ascii c List.mem_cons_self
  rw [lower_cons, lowerChar]
  split
  · next kelvin =>
      subst kelvin
      constructor
      · intro found
        cases (List.cons_prefix_cons.mp found).1
        exact absurd List.mem_cons_self searchable.noKelvin
      · rintro ⟨rfl, -⟩
        exact absurd small (by decide)
  · split
    · next dotted =>
        subst dotted
        constructor
        · intro found
          obtain ⟨rfl, later⟩ := List.cons_prefix_cons.mp found
          cases word with
          | nil => exact absurd rfl searchable.noDotted
          | cons next word =>
              cases (List.cons_prefix_cons.mp later).1
              exact absurd (searchable.tail.ascii _ List.mem_cons_self) (by decide)
        · rintro ⟨rfl, -⟩
          exact absurd small (by decide)
    · rw [List.singleton_append, List.cons_prefix_cons, eq_comm]

theorem prefix_lower_iff {word text : List Char} (searchable : Searchable word) :
    word <+: lower text ↔ ∃ spelled, spelled <+: text ∧ spelled.map Char.toLower = word := by
  -- each letter of the word uses up one letter of the text, never a part of its lower case
  induction word generalizing text with
  | nil => exact ⟨fun _ => ⟨[], List.nil_prefix, rfl⟩, fun _ => List.nil_prefix⟩
  | cons c word ih =>
      cases text with
      | nil =>
          constructor
          · intro found
            cases List.prefix_nil.mp found
          · rintro ⟨spelled, found, same⟩
            cases List.prefix_nil.mp found
            cases same
      | cons d text =>
          rw [prefix_lower_cons_iff searchable, ih searchable.tail]
          constructor
          · rintro ⟨rfl, spelled, found, rfl⟩
            exact ⟨d :: spelled, List.cons_prefix_cons.mpr ⟨rfl, found⟩, rfl⟩
          · rintro ⟨spelled, found, same⟩
            cases spelled with
            | nil => cases same
            | cons first spelled =>
                obtain ⟨rfl, found'⟩ := List.cons_prefix_cons.mp found
                obtain ⟨here, later⟩ := List.cons.inj same
                exact ⟨here, spelled, found', later⟩

theorem toLower_of_blank {c : Char} (blank : isBlank c = true) : c.toLower = c := by
  have noLetter : ¬ ('A'.toNat ≤ c.toNat ∧ c.toNat ≤ 'Z'.toNat) := by
    simp only [isBlank, Bool.or_eq_true, Bool.and_eq_true, decide_eq_true_eq, beq_iff_eq] at blank
    have first : 'A'.toNat = 65 := rfl
    have last : 'Z'.toNat = 90 := rfl
    omega
  exact dif_neg noLetter

def Announces (word : String) (line : List Char) : Prop :=
  ∃ gap spelled rest, line = gap ++ spelled ++ rest ∧ (∀ c ∈ gap, isBlank c = true) ∧
    spelled.map Char.toLower = word.toList

theorem prefix_lower_trim_iff {word : String} {line : List Char} (some : word.toList ≠ [])
    (searchable : Searchable word.toList) :
    word.toList <+: lower (trim line) ↔ Announces word line := by
  have solidSpelled : ∀ spelled : List Char, spelled.map Char.toLower = word.toList →
      spelled ≠ [] ∧ ∀ c ∈ spelled, isBlank c = false := by
    intro spelled same
    constructor
    · rintro rfl
      exact some same.symm
    · intro c member
      have lowered := searchable.solid c.toLower (same ▸ List.mem_map_of_mem member)
      cases blank : isBlank c with
      | false => rfl
      | true =>
          rw [toLower_of_blank blank, blank] at lowered
          cases lowered
  rw [prefix_lower_iff searchable]
  constructor
  · rintro ⟨spelled, found, same⟩
    obtain ⟨spelledSome, spelledSolid⟩ := solidSpelled spelled same
    obtain ⟨gap, rest, parts, blank⟩ := (prefix_trim_iff spelledSome spelledSolid).mp found
    exact ⟨gap, spelled, rest, parts, blank, same⟩
  · rintro ⟨gap, spelled, rest, parts, blank, same⟩
    obtain ⟨spelledSome, spelledSolid⟩ := solidSpelled spelled same
    exact ⟨spelled, (prefix_trim_iff spelledSome spelledSolid).mpr ⟨gap, rest, parts, blank⟩, same⟩

end PackageProvider.Text
