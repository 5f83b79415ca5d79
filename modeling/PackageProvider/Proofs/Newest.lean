import PackageProvider.Build
import PackageProvider.Proofs.Evr.Order

set_option autoImplicit false

/-! Choosing a newest build: a chosen build is one of those there were, and none of them
exceeds it. -/

namespace PackageProvider.Build

def Exceeds (first second : Build) : Prop := first.parsedEvr.newer second.parsedEvr = true

instance (first second : Build) : Decidable (first.Exceeds second) :=
  inferInstanceAs (Decidable (_ = true))

theorem not_exceeds_iff {first second : Build} :
    ¬ first.Exceeds second ↔ first.parsedEvr.newer second.parsedEvr = false := by
  rw [Exceeds, Bool.not_eq_true]

theorem not_exceeds_self (build : Build) : ¬ build.Exceeds build :=
  not_exceeds_iff.mpr (Evr.newer_irrefl build.parsedEvr)

theorem Exceeds.asymm {first second : Build} (higher : first.Exceeds second) :
    ¬ second.Exceeds first :=
  not_exceeds_iff.mpr (Evr.not_newer_of_newer higher)

theorem not_exceeds_trans {first second third : Build} (low : ¬ first.Exceeds second)
    (high : ¬ second.Exceeds third) : ¬ first.Exceeds third :=
  not_exceeds_iff.mpr (Evr.not_newer_trans (not_exceeds_iff.mp low) (not_exceeds_iff.mp high))

theorem Exceeds.of_not_exceeds {first second third : Build} (high : first.Exceeds second)
    (low : ¬ third.Exceeds second) : first.Exceeds third :=
  Evr.newer_of_newer_of_not_newer high (not_exceeds_iff.mp low)

theorem not_exceeds_newer_left (first second : Build) : ¬ first.Exceeds (newer first second) := by
  unfold newer
  split
  · exact not_exceeds_self first
  · rename_i notNewer
    exact notNewer

theorem not_exceeds_newer_right (first second : Build) : ¬ second.Exceeds (newer first second) := by
  unfold newer
  split
  · rename_i higher
    exact Exceeds.asymm higher
  · exact not_exceeds_self second

theorem not_exceeds_foldl_newer (rest : List Build) (first build : Build)
    (member : build = first ∨ build ∈ rest) : ¬ build.Exceeds (rest.foldl newer first) := by
  induction rest generalizing first build with
  | nil =>
      rcases member with same | impossible
      · rw [same]
        exact not_exceeds_self first
      · cases impossible
  | cons next rest ih =>
      rw [List.foldl_cons]
      have chosen := ih (newer first next) (newer first next) (.inl rfl)
      rcases member with same | member
      · rw [same]
        exact not_exceeds_trans (not_exceeds_newer_left first next) chosen
      · rcases List.mem_cons.mp member with same | later
        · rw [same]
          exact not_exceeds_trans (not_exceeds_newer_right first next) chosen
        · exact ih (newer first next) build (.inr later)

theorem not_exceeds_newest? {builds : List Build} {best build : Build}
    (chosen : newest? builds = some best) (member : build ∈ builds) : ¬ build.Exceeds best := by
  cases builds with
  | nil => cases member
  | cons first rest =>
      injection chosen with same
      rw [← same]
      exact not_exceeds_foldl_newer rest first build (List.mem_cons.mp member)

theorem newest?_eq_none_iff {builds : List Build} : newest? builds = none ↔ builds = [] := by
  cases builds <;> simp [newest?]

end PackageProvider.Build
