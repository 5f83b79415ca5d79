import PackageProvider.Build

set_option autoImplicit false

/-! How a spec spells a build: as its name, or as its name, a dash and what stands for its
version. Where a text could be read both ways, only a dash in it can be the reason. -/

namespace PackageProvider

theorem dashed_ne (name version : String) : name ++ "-" ++ version ≠ name := by
  intro same
  have lengths := congrArg String.length same
  have dash : "-".length = 1 := rfl
  simp only [String.length_append] at lengths
  omega

theorem dashed_inj {name first second : String} :
    name ++ "-" ++ first = name ++ "-" ++ second ↔ first = second :=
  String.append_right_inj _

namespace Build

/-- The texts that stand for the version of a build: the version itself, the version and the
release, the EVR as written, or the EVR and the architecture. -/
def versions (build : Build) : List String :=
  [String.ofList build.parsedEvr.version, String.ofList build.parsedEvr.versionRelease, build.evr,
    build.evr ++ "." ++ build.arch]

variable {build : Build} {spec version : String}

theorem isNamedBy_iff :
    build.isNamedBy spec = true ↔
      build.name = spec ∨ ∃ version ∈ build.versions, build.name ++ "-" ++ version = spec := by
  have full : build.nevra = build.name ++ "-" ++ (build.evr ++ "." ++ build.arch) := by
    simp only [nevra, String.append_assoc]
  simp only [isNamedBy, specs, versions, full, List.contains_iff_mem, List.mem_cons,
    List.not_mem_nil, or_false, exists_eq_or_imp, exists_eq_left, eq_comm (a := spec)]

theorem isNamedBy_dashed_iff {name : String} (sameName : build.name = name) :
    build.isNamedBy (name ++ "-" ++ version) = true ↔ version ∈ build.versions := by
  subst sameName
  rw [isNamedBy_iff]
  constructor
  · rintro (same | ⟨other, member, same⟩)
    · exact (dashed_ne _ _ same.symm).elim
    · exact dashed_inj.mp same ▸ member
  · exact fun member => .inr ⟨version, member, rfl⟩

end Build

end PackageProvider
