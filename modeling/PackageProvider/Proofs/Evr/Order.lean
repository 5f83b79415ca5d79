import PackageProvider.Proofs.Evr.Scan

set_option autoImplicit false

/-! Versions and EVRs are totally preordered. -/

namespace PackageProvider

/-- The laws of an order that any two items stand in, where different items may be the same
to it. -/
structure IsTotalPreorder {Item : Type} (cmp : Item → Item → Ordering) : Prop where
  compare_self (item : Item) : cmp item item = .eq
  compare_swap (first second : Item) : cmp second first = (cmp first second).swap
  le_trans (first second third : Item) (below : (cmp first second).isLE = true)
    (above : (cmp second third).isLE = true) : (cmp first third).isLE = true
  equivalence : Equivalence fun first second => cmp first second = .eq
  compare_congr (first second third : Item) (same : cmp first second = .eq) :
    cmp first third = cmp second third

theorem isTotalPreorder_of_transCmp {Item : Type} (cmp : Item → Item → Ordering)
    [Std.TransCmp cmp] : IsTotalPreorder cmp where
  compare_self := fun _ => Std.ReflCmp.compare_self
  compare_swap := fun _ _ => Std.OrientedCmp.eq_swap
  le_trans := fun _ _ _ below above => Std.TransCmp.isLE_trans below above
  equivalence :=
    { refl := fun _ => Std.ReflCmp.compare_self
      symm := fun same => Std.OrientedCmp.eq_symm same
      trans := fun same also => Std.TransCmp.eq_trans same also }
  compare_congr := fun _ _ _ same => Std.TransCmp.congr_left same

theorem transCmp_on {Item Key : Type} (cmp : Key → Key → Ordering) [Std.TransCmp cmp]
    (key : Item → Key) : Std.TransCmp fun first second => cmp (key first) (key second) where
  eq_swap := by
    intro first second
    exact @Std.OrientedCmp.eq_swap _ cmp _ (key first) (key second)
  isLE_trans := by
    intro first second third below above
    exact @Std.TransCmp.isLE_trans _ cmp _ _ _ _ below above

namespace Version

instance : Std.TransCmp compareSegments :=
  transCmp_on (List.compareLex Segment.compare) segments

theorem compare_eq_compareSegments (left right : List Char) :
    compare left right = compareSegments left right := by
  rw [compare]
  split
  · rename_i same
    rw [same, @Std.ReflCmp.compare_self _ compareSegments _ right]
  · exact scan_eq_compareSegments left right

instance : Std.TransCmp compare :=
  have same : compare = compareSegments := by
    funext left right
    exact compare_eq_compareSegments left right
  same ▸ inferInstance

end Version

namespace Evr

instance : Std.TransCmp compareReleases where
  eq_swap := by
    intro left right
    cases left with
    | none => cases right <;> rfl
    | some leftText =>
        cases right with
        | none => rfl
        | some rightText => exact @Std.OrientedCmp.eq_swap _ Version.compare _ leftText rightText
  isLE_trans := by
    intro first second third below above
    cases first with
    | none => cases third <;> rfl
    | some firstText =>
        cases second with
        | none => cases below
        | some secondText =>
            cases third with
            | none => cases above
            | some thirdText => exact @Std.TransCmp.isLE_trans _ Version.compare _ _ _ _ below above

instance : Std.TransCmp compare :=
  have := transCmp_on Version.compare version
  have := transCmp_on compareReleases release
  inferInstanceAs (Std.TransCmp (compareLex (compareOn epoch)
    (compareLex (fun left right : Evr => Version.compare left.version right.version)
      (fun left right : Evr => compareReleases left.release right.release))))

theorem newer_iff {left right : Evr} : left.newer right = true ↔ compare left right = .gt := by
  simp [newer]

theorem not_newer_iff {left right : Evr} :
    left.newer right = false ↔ (compare left right).isLE = true := by
  rw [newer]
  cases compare left right <;> decide

theorem newer_irrefl (evr : Evr) : evr.newer evr = false := by
  rw [not_newer_iff]
  exact Std.ReflCmp.isLE_rfl

theorem newer_trans {first second third : Evr} (high : first.newer second = true)
    (low : second.newer third = true) : first.newer third = true := by
  rw [newer_iff] at *
  exact Std.TransCmp.gt_trans high low

theorem not_newer_trans {first second third : Evr} (low : first.newer second = false)
    (high : second.newer third = false) : first.newer third = false := by
  rw [not_newer_iff] at *
  exact Std.TransCmp.isLE_trans low high

theorem not_newer_of_newer {left right : Evr} (higher : left.newer right = true) :
    right.newer left = false := by
  rw [newer_iff] at higher
  rw [not_newer_iff, Std.OrientedCmp.lt_of_gt higher]
  rfl

theorem newer_of_newer_of_not_newer {first second third : Evr} (high : first.newer second = true)
    (low : third.newer second = false) : first.newer third = true := by
  rw [newer_iff] at *
  rw [not_newer_iff] at low
  exact Std.TransCmp.gt_of_gt_of_isGE high (Std.OrientedCmp.isGE_of_isLE low)

/-- Versions, EVRs of any parts, and texts by the EVRs that they stand for. -/
theorem compare_isTotalPreorder :
    IsTotalPreorder Version.compare ∧
      IsTotalPreorder Evr.compare ∧
      (IsTotalPreorder fun left right : String => Evr.compare (ofString left) (ofString right)) ∧
      ∀ left right : Evr, left.equivalent right = true ↔ Evr.compare left right = .eq := by
  have := transCmp_on Evr.compare ofString
  refine ⟨isTotalPreorder_of_transCmp _, isTotalPreorder_of_transCmp _,
    isTotalPreorder_of_transCmp _, fun left right => ?_⟩
  rw [equivalent, beq_iff_eq]

end Evr

end PackageProvider
