import Mathlib.Data.List.Forall2

set_option autoImplicit false

/-! Results that may be errors. -/

namespace PackageProvider

theorem bind_eq_ok_iff {Error First Second : Type} {attempt : Except Error First}
    {next : First → Except Error Second} {result : Second} :
    attempt >>= next = .ok result ↔ ∃ first, attempt = .ok first ∧ next first = .ok result := by
  cases attempt with
  | error error => simp only [bind, Except.bind, reduceCtorEq, false_and, exists_false]
  | ok first => simp only [bind, Except.bind, Except.ok.injEq, exists_eq_left']

theorem mapM_eq_ok_iff {Error Item Result : Type} {read : Item → Except Error Result}
    {items : List Item} {results : List Result} :
    items.mapM read = .ok results ↔
      List.Forall₂ (fun item result => read item = .ok result) items results := by
  induction items generalizing results with
  | nil =>
      rw [List.mapM_nil, List.forall₂_nil_left_iff]
      constructor
      · intro same
        cases same
        rfl
      · intro none
        rw [none]
        rfl
  | cons item items ih =>
      rw [List.mapM_cons, bind_eq_ok_iff, List.forall₂_cons_left_iff]
      constructor
      · intro ⟨first, here, later⟩
        obtain ⟨rest, reads, same⟩ := bind_eq_ok_iff.mp later
        cases same
        exact ⟨first, rest, here, ih.mp reads, rfl⟩
      · intro ⟨first, rest, here, later, same⟩
        refine ⟨first, here, ?_⟩
        rw [bind_eq_ok_iff]
        exact ⟨rest, ih.mpr later, by rw [same]; rfl⟩

theorem forM_eq_ok_iff {Error Item : Type} {check : Item → Except Error Unit} {items : List Item} :
    items.forM check = .ok () ↔ ∀ item ∈ items, check item = .ok () := by
  induction items with
  | nil => exact iff_of_true rfl (fun _ member => nomatch member)
  | cons item items ih =>
      rw [List.forM, bind_eq_ok_iff, List.forall_mem_cons, ← ih]
      constructor
      · intro ⟨_, here, later⟩
        exact ⟨here, later⟩
      · intro ⟨here, later⟩
        exact ⟨(), here, later⟩

end PackageProvider
