import PackageProvider.Proofs.Observation

set_option autoImplicit false

/-! What is kept for each name and architecture, as a search in the builds: the first one that none
with its name and architecture exceeds. Keeping again changes nothing, and the order of the builds
matters only between those that the order of EVRs does not tell apart. -/

namespace PackageProvider

def Build.IsHighestIn (build : Build) (builds : List Build) : Prop :=
  ∀ other ∈ builds, other.key = build.key → ¬ other.Exceeds build

instance (build : Build) (builds : List Build) : Decidable (build.IsHighestIn builds) :=
  inferInstanceAs (Decidable (∀ _ ∈ _, _ → _))

def firstHighest? (builds : List Build) (key : String × String) : Option Build :=
  builds.find? fun build => build.key = key ∧ build.IsHighestIn builds

theorem Build.IsLatestIn.firstHighest?_eq {build : Build} {builds : List Build}
    (latest : build.IsLatestIn builds) : firstHighest? builds build.key = some build := by
  obtain ⟨earlier, later, parts, low, -⟩ := id latest
  rw [firstHighest?, List.find?_eq_some_iff_append]
  constructor
  · exact decide_eq_true ⟨rfl, fun other member same => latest.not_exceeds member same⟩
  · refine ⟨earlier, later, parts, fun other before => ?_⟩
    rw [Bool.not_eq_true', decide_eq_false_iff_not]
    rintro ⟨same, highest⟩
    exact highest build latest.mem same.symm (low other before same)

theorem AreLatest.eq_filterMap {builds kept : List Build} (latest : AreLatest builds kept) :
    kept = (builds.map Build.key).eraseDups.filterMap (firstHighest? builds) := by
  have each : ∀ build ∈ kept, (firstHighest? builds ∘ Build.key) build = some build :=
    fun build member => (latest.latest build member).firstHighest?_eq
  rw [← latest.keys, List.filterMap_map, List.filterMap_congr each, List.filterMap_some]

theorem AreLatest.count_key {builds kept : List Build} (latest : AreLatest builds kept)
    (key : String × String) :
    (kept.map Build.key).count key = if key ∈ builds.map Build.key then 1 else 0 := by
  rw [latest.keys, (nodup_eraseDups _).count]
  simp only [List.mem_eraseDups]

/-! ### Keeping again -/

theorem latestPerArch_of_distinct {builds : List Build} (distinct : (builds.map Build.key).Nodup) :
    latestPerArch builds = builds := by
  induction builds using List.reverseRecOn with
  | nil => rfl
  | append_singleton builds build ih =>
      rw [List.map_append, List.map_singleton, List.nodup_append] at distinct
      obtain ⟨before, -, apart⟩ := distinct
      have fresh : build.key ∉ builds.map Build.key :=
        fun occurs => apart _ occurs _ List.mem_cons_self rfl
      rw [latestPerArch, List.foldl_append, ← latestPerArch, ih before]
      exact placeLatest_of_fresh fresh

theorem latestPerArch_latestPerArch (builds : List Build) :
    latestPerArch (latestPerArch builds) = latestPerArch builds := by
  apply latestPerArch_of_distinct
  rw [(areLatest_latestPerArch builds).keys]
  exact nodup_eraseDups _

/-! ### Other orders -/

theorem Build.equivalent_of_not_exceeds {first second : Build} (low : ¬ first.Exceeds second)
    (high : ¬ second.Exceeds first) : first.parsedEvr.equivalent second.parsedEvr = true := by
  rw [not_exceeds_iff, Evr.not_newer_iff] at low high
  rw [Evr.equivalent, beq_iff_eq]
  exact Std.OrientedCmp.isLE_antisymm low high

theorem exists_equivalent_of_perm {builds others : List Build} (perm : builds.Perm others)
    {kept : Build} (member : kept ∈ latestPerArch builds) :
    ∃ also ∈ latestPerArch others, also.key = kept.key ∧
      kept.parsedEvr.equivalent also.parsedEvr = true := by
  have latest := (areLatest_latestPerArch builds).latest kept member
  obtain ⟨also, there, same⟩ :=
    (areLatest_latestPerArch others).exists_of_mem (perm.mem_iff.mp latest.mem)
  have alsoLatest := (areLatest_latestPerArch others).latest also there
  refine ⟨also, there, same, Build.equivalent_of_not_exceeds ?_ ?_⟩
  · exact alsoLatest.not_exceeds (perm.mem_iff.mp latest.mem) same.symm
  · exact latest.not_exceeds (perm.mem_iff.mpr alsoLatest.mem) same

/-- One build is kept for each name and architecture that occur, in the order in which they first
do, and it is the first of the builds that none of them exceeds. Keeping again changes nothing, and
in another order of the builds one of an equivalent EVR is kept. -/
theorem latestPerArch_selects :
    (∀ builds : List Build,
      (latestPerArch builds).map Build.key = (builds.map Build.key).eraseDups ∧
        (∀ key, ((latestPerArch builds).map Build.key).count key =
          if key ∈ builds.map Build.key then 1 else 0) ∧
        latestPerArch builds =
          (builds.map Build.key).eraseDups.filterMap (firstHighest? builds) ∧
        latestPerArch (latestPerArch builds) = latestPerArch builds) ∧
      ∀ builds others : List Build, builds.Perm others →
        ∀ kept ∈ latestPerArch builds, ∃ also ∈ latestPerArch others,
          also.key = kept.key ∧ kept.parsedEvr.equivalent also.parsedEvr = true := by
  constructor
  · intro builds
    have latest := areLatest_latestPerArch builds
    exact ⟨latest.keys, latest.count_key, latest.eq_filterMap, latestPerArch_latestPerArch builds⟩
  · intro builds others perm kept member
    exact exists_equivalent_of_perm perm member

def zlibBuilds : List Build :=
  [⟨"zlib", "1.2-1", "x86_64"⟩, ⟨"zlib", "1.03-1", "i686"⟩, ⟨"zlib", "1.3-1", "x86_64"⟩,
    ⟨"zlib", "1.03-1", "x86_64"⟩]

theorem zlibBuilds_selects :
    latestPerArch zlibBuilds = [⟨"zlib", "1.3-1", "x86_64"⟩, ⟨"zlib", "1.03-1", "i686"⟩] ∧
      ∃ also ∈ latestPerArch zlibBuilds.reverse, also.key = ("zlib", "x86_64") ∧
        (Evr.ofString "1.3-1").equivalent also.parsedEvr = true := by
  have kept : latestPerArch zlibBuilds =
      [⟨"zlib", "1.3-1", "x86_64"⟩, ⟨"zlib", "1.03-1", "i686"⟩] := by
    decide +kernel
  refine ⟨kept, latestPerArch_selects.2 zlibBuilds zlibBuilds.reverse
    (List.reverse_perm zlibBuilds).symm ⟨"zlib", "1.3-1", "x86_64"⟩ ?_⟩
  rw [kept]
  exact List.mem_cons_self

end PackageProvider
