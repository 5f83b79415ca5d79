import PackageProvider.Dnf.Complaint
import PackageProvider.Proofs.Text.Pieces

set_option autoImplicit false

/-! When a complaint counts as a failure of the goal. -/

namespace PackageProvider.Dnf

/-- Some line, without the blanks around it, says that nothing matched, or reports an error
other than that the user's answer was no. -/
def Complains (complaint : List Char) : Prop :=
  ∃ line ∈ Text.lines complaint,
    "No match for argument".toList <+: Text.trim line ∨
      ("Error:".toList <+: Text.trim line ∧ ¬ "Operation aborted".toList <:+: Text.trim line)

theorem reportsFailure_iff {line : List Char} :
    reportsFailure line = true ↔
      "No match for argument".toList <+: line ∨
        ("Error:".toList <+: line ∧ ¬ "Operation aborted".toList <:+: line) := by
  rw [reportsFailure, Bool.or_eq_true, Bool.and_eq_true, List.isPrefixOf_iff_prefix,
    List.isPrefixOf_iff_prefix, Bool.not_eq_true', ← Bool.not_eq_true, Text.occurs_iff]

theorem goalFailure?_of_complains {complaint : List Char} (complains : Complains complaint) :
    ∃ error, goalFailure? complaint = some error := by
  obtain ⟨line, member, reports⟩ := complains
  refine ⟨_, if_pos ?_⟩
  exact List.any_eq_true.mpr ⟨line, member, reportsFailure_iff.mpr reports⟩

end PackageProvider.Dnf
