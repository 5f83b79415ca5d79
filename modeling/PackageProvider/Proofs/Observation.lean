import Mathlib.Data.List.Induction
import Mathlib.Data.List.Nodup
import PackageProvider.Observation
import PackageProvider.Proofs.Newest

set_option autoImplicit false

/-! The newest build for each name and architecture: each of these occurs once among the kept
builds, in the order in which they first occur, and the one that is kept is the first of the
highest. The absent names are those on offer that no present build has. -/

namespace PackageProvider

/-! ### The first occurrences in a list -/

section

variable {Item : Type} [BEq Item] [LawfulBEq Item]

theorem eraseDups_concat_of_mem {items : List Item} {item : Item} (member : item ∈ items) :
    (items ++ [item]).eraseDups = items.eraseDups := by
  have known : [item].removeAll items = [] := by
    simpa [List.removeAll] using member
  rw [List.eraseDups_append, known, List.eraseDups_nil, List.append_nil]

theorem eraseDups_concat_of_not_mem {items : List Item} {item : Item} (fresh : item ∉ items) :
    (items ++ [item]).eraseDups = items.eraseDups ++ [item] := by
  have unknown : [item].removeAll items = [item] := by
    simpa [List.removeAll] using fresh
  rw [List.eraseDups_append, unknown, List.eraseDups_cons, List.filter_nil, List.eraseDups_nil]

theorem nodup_eraseDups (items : List Item) : items.eraseDups.Nodup := by
  induction items using List.reverseRecOn with
  | nil => exact List.nodup_nil
  | append_singleton items item ih =>
      by_cases member : item ∈ items
      · rw [eraseDups_concat_of_mem member]
        exact ih
      · rw [eraseDups_concat_of_not_mem member, ← List.concat_eq_append]
        exact ih.concat fun listed => member (List.mem_eraseDups.mp listed)

end

/-! ### Placing one build -/

def Build.key (build : Build) : String × String := (build.name, build.arch)

theorem Build.key_eq_iff {first second : Build} :
    first.key = second.key ↔ first.name = second.name ∧ first.arch = second.arch := by
  rw [Build.key, Build.key, Prod.mk.injEq]

theorem placeLatest_cons_of_shares {build first : Build} {rest : List Build}
    (shares : first.key = build.key) :
    placeLatest build (first :: rest) =
      (if build.parsedEvr.newer first.parsedEvr then build else first) :: rest := by
  rw [placeLatest, if_pos (by simpa using Build.key_eq_iff.mp shares)]

theorem placeLatest_cons_of_not_shares {build first : Build} {rest : List Build}
    (differs : first.key ≠ build.key) :
    placeLatest build (first :: rest) = first :: placeLatest build rest := by
  rw [placeLatest, if_neg (by simpa using fun same => differs ∘ Build.key_eq_iff.mpr ∘ .intro same)]

theorem map_key_placeLatest {build : Build} {latest : List Build}
    (occurs : build.key ∈ latest.map Build.key) :
    (placeLatest build latest).map Build.key = latest.map Build.key := by
  induction latest with
  | nil => cases occurs
  | cons first rest ih =>
      by_cases shares : first.key = build.key
      · rw [placeLatest_cons_of_shares shares]
        split
        · rw [List.map_cons, List.map_cons, shares]
        · rfl
      · have later : build.key ∈ rest.map Build.key :=
          (List.mem_cons.mp occurs).resolve_left fun same => shares same.symm
        rw [placeLatest_cons_of_not_shares shares, List.map_cons, ih later, List.map_cons]

theorem placeLatest_of_fresh {build : Build} {latest : List Build}
    (fresh : build.key ∉ latest.map Build.key) : placeLatest build latest = latest ++ [build] := by
  induction latest with
  | nil => rfl
  | cons first rest ih =>
      obtain ⟨differs, later⟩ := not_or.mp fun occurs => fresh (List.mem_cons.mpr occurs)
      rw [placeLatest_cons_of_not_shares fun same => differs same.symm, ih later, List.cons_append]

/-- A build that is there afterwards is the placed one, which then exceeds what it replaces, or
one that was there, which the placed one then does not exceed. -/
theorem mem_placeLatest_cases {build kept : Build} {latest : List Build}
    (distinct : (latest.map Build.key).Nodup) (member : kept ∈ placeLatest build latest) :
    (kept = build ∧ ∀ other ∈ latest, other.key = build.key → build.Exceeds other) ∨
      (kept ∈ latest ∧ (build.key = kept.key → ¬ build.Exceeds kept)) := by
  induction latest with
  | nil => exact .inl ⟨List.mem_singleton.mp member, nofun⟩
  | cons first rest ih =>
      rw [List.map_cons, List.nodup_cons] at distinct
      by_cases shares : first.key = build.key
      · have fresh : ∀ other ∈ rest, other.key ≠ build.key := by
          intro other there same
          refine distinct.1 (List.mem_map.mpr ⟨other, there, ?_⟩)
          rw [same, shares]
        rw [placeLatest_cons_of_shares shares] at member
        by_cases newer : build.parsedEvr.newer first.parsedEvr = true
        · rw [if_pos newer] at member
          rcases List.mem_cons.mp member with placed | stayed
          · refine .inl ⟨placed, List.forall_mem_cons.mpr ⟨fun _ => newer, ?_⟩⟩
            exact fun other there same => (fresh other there same).elim
          · exact .inr ⟨List.mem_cons_of_mem first stayed,
              fun same => (fresh kept stayed same.symm).elim⟩
        · rw [if_neg newer] at member
          refine .inr ⟨member, fun same => ?_⟩
          rcases List.mem_cons.mp member with sits | stayed
          · rw [sits]
            exact newer
          · exact (fresh kept stayed same.symm).elim
      · rw [placeLatest_cons_of_not_shares shares] at member
        rcases List.mem_cons.mp member with sits | later
        · refine .inr ⟨sits ▸ List.mem_cons_self, fun same => ?_⟩
          rw [sits] at same
          exact (shares same.symm).elim
        · rcases ih distinct.2 later with ⟨placed, exceeds⟩ | ⟨stayed, low⟩
          · refine .inl ⟨placed, List.forall_mem_cons.mpr ⟨?_, exceeds⟩⟩
            exact fun same => (shares same).elim
          · exact .inr ⟨List.mem_cons_of_mem first stayed, low⟩

theorem filter_placeLatest (name : String) (build : Build) (latest : List Build) :
    (placeLatest build latest).filter (fun kept => kept.name == name) =
      if build.name == name then placeLatest build (latest.filter fun kept => kept.name == name)
      else latest.filter fun kept => kept.name == name := by
  induction latest with
  | nil => simp only [placeLatest, List.filter_cons, List.filter_nil]
  | cons first rest ih =>
      by_cases shares : first.key = build.key
      · have sameName : first.name = build.name := (Build.key_eq_iff.mp shares).1
        rw [placeLatest_cons_of_shares shares]
        by_cases named : (build.name == name) = true
        · have firstNamed : (first.name == name) = true := by
            rw [sameName]
            exact named
          simp only [List.filter_cons, named, firstNamed, if_true,
            placeLatest_cons_of_shares shares]
          split <;> rfl
        · have firstUnnamed : ¬ (first.name == name) = true := by
            rw [sameName]
            exact named
          simp only [List.filter_cons, named, firstUnnamed, Bool.false_eq_true, if_false]
          split <;> rfl
      · rw [placeLatest_cons_of_not_shares shares]
        simp only [List.filter_cons, ih]
        by_cases firstNamed : (first.name == name) = true
        · simp only [firstNamed, if_true]
          split
          · rw [placeLatest_cons_of_not_shares shares]
          · rfl
        · simp only [firstNamed, Bool.false_eq_true, if_false]

/-! ### All builds -/

def Build.IsLatestIn (build : Build) (builds : List Build) : Prop :=
  ∃ earlier later, builds = earlier ++ build :: later ∧
    (∀ other ∈ earlier, other.key = build.key → build.Exceeds other) ∧
    ∀ other ∈ later, other.key = build.key → ¬ other.Exceeds build

theorem Build.IsLatestIn.mem {build : Build} {builds : List Build}
    (latest : build.IsLatestIn builds) : build ∈ builds := by
  obtain ⟨earlier, later, parts, -, -⟩ := latest
  rw [parts]
  exact List.mem_append_right earlier List.mem_cons_self

theorem Build.IsLatestIn.not_exceeds {build other : Build} {builds : List Build}
    (latest : build.IsLatestIn builds) (member : other ∈ builds) (same : other.key = build.key) :
    ¬ other.Exceeds build := by
  obtain ⟨earlier, later, parts, low, high⟩ := latest
  rw [parts] at member
  rcases List.mem_append.mp member with before | after
  · exact (low other before same).asymm
  · rcases List.mem_cons.mp after with itself | behind
    · rw [itself]
      exact build.not_exceeds_self
    · exact high other behind same

/-- For each name and architecture that occur, in the order in which they first do, the kept
builds hold the first of the highest builds. -/
structure AreLatest (builds kept : List Build) : Prop where
  keys : kept.map Build.key = (builds.map Build.key).eraseDups
  latest : ∀ build ∈ kept, build.IsLatestIn builds

namespace AreLatest

variable {builds kept : List Build}

theorem exists_of_mem (latest : AreLatest builds kept) {other : Build} (member : other ∈ builds) :
    ∃ build ∈ kept, build.key = other.key := by
  have occurs : other.key ∈ kept.map Build.key := by
    rw [latest.keys, List.mem_eraseDups]
    exact List.mem_map_of_mem member
  exact List.mem_map.mp occurs

theorem concat (latest : AreLatest builds kept) (build : Build) :
    AreLatest (builds ++ [build]) (placeLatest build kept) := by
  have distinct : (kept.map Build.key).Nodup := by
    rw [latest.keys]
    exact nodup_eraseDups _
  constructor
  · have listed : build.key ∈ kept.map Build.key ↔ build.key ∈ builds.map Build.key := by
      rw [latest.keys, List.mem_eraseDups]
    rw [List.map_append, List.map_singleton]
    by_cases occurs : build.key ∈ builds.map Build.key
    · rw [map_key_placeLatest (listed.mpr occurs), eraseDups_concat_of_mem occurs, latest.keys]
    · rw [placeLatest_of_fresh fun known => occurs (listed.mp known),
        eraseDups_concat_of_not_mem occurs, List.map_append, latest.keys, List.map_singleton]
  · intro final member
    rcases mem_placeLatest_cases distinct member with ⟨placed, exceeds⟩ | ⟨stayed, low⟩
    · rw [placed]
      refine ⟨builds, [], rfl, fun other there same => ?_, nofun⟩
      obtain ⟨before, keptThere, sameKey⟩ := latest.exists_of_mem there
      have high := exceeds before keptThere (sameKey.trans same)
      exact high.of_not_exceeds
        ((latest.latest before keptThere).not_exceeds there sameKey.symm)
    · obtain ⟨earlier, later, parts, lowEarlier, highLater⟩ := latest.latest final stayed
      refine ⟨earlier, later ++ [build], ?_, lowEarlier, fun other there same => ?_⟩
      · rw [parts, List.append_assoc, List.cons_append]
      · rcases List.mem_append.mp there with behind | last
        · exact highLater other behind same
        · rw [List.mem_singleton.mp last] at same ⊢
          exact low same

end AreLatest

theorem areLatest_latestPerArch (builds : List Build) :
    AreLatest builds (latestPerArch builds) := by
  induction builds using List.reverseRecOn with
  | nil => exact ⟨rfl, nofun⟩
  | append_singleton builds build ih =>
      rw [latestPerArch, List.foldl_append, ← latestPerArch]
      exact ih.concat build

theorem mem_of_mem_latestPerArch {builds : List Build} {kept : Build}
    (member : kept ∈ latestPerArch builds) : kept ∈ builds :=
  ((areLatest_latestPerArch builds).latest kept member).mem

theorem latestPerArch_covers {builds : List Build} {other : Build} (member : other ∈ builds) :
    ∃ kept ∈ latestPerArch builds, kept.name = other.name ∧ ¬ other.Exceeds kept := by
  have latest := areLatest_latestPerArch builds
  obtain ⟨kept, there, same⟩ := latest.exists_of_mem member
  exact ⟨kept, there, (Build.key_eq_iff.mp same).1,
    (latest.latest kept there).not_exceeds member same.symm⟩

theorem exists_latestPerArch_iff {builds : List Build} {name : String} :
    (∃ kept ∈ latestPerArch builds, kept.name = name) ↔ ∃ build ∈ builds, build.name = name := by
  constructor
  · rintro ⟨kept, member, named⟩
    exact ⟨kept, mem_of_mem_latestPerArch member, named⟩
  · rintro ⟨build, member, named⟩
    obtain ⟨kept, there, same, -⟩ := latestPerArch_covers member
    exact ⟨kept, there, same.trans named⟩

theorem filter_foldl_placeLatest (name : String) (builds latest : List Build) :
    (builds.foldl (fun latest build => placeLatest build latest) latest).filter
        (fun kept => kept.name == name) =
      (builds.filter fun build => build.name == name).foldl
        (fun latest build => placeLatest build latest)
        (latest.filter fun kept => kept.name == name) := by
  induction builds generalizing latest with
  | nil => rfl
  | cons build rest ih =>
      rw [List.foldl_cons, ih, filter_placeLatest, List.filter_cons]
      split <;> rfl

/-- The builds of other names have no part in what is kept of a name. -/
theorem filter_latestPerArch (name : String) (builds : List Build) :
    (latestPerArch builds).filter (fun kept => kept.name == name) =
      latestPerArch (builds.filter fun build => build.name == name) :=
  filter_foldl_placeLatest name builds []

/-! ### Absent names -/

namespace Inventory

theorem absentNames_eq (present offered : List Build) :
    absentNames present offered =
      ((offered.map Build.name).filter fun name =>
        !present.any fun other => other.name == name).eraseDups := by
  induction offered using List.reverseRecOn with
  | nil => rfl
  | append_singleton offered build ih =>
      rw [absentNames, List.foldl_append, ← absentNames, List.foldl_cons, List.foldl_nil, ih,
        List.map_append, List.filter_append, List.map_singleton, List.filter_singleton]
      cases there : present.any fun other => other.name == build.name with
      | true => simp
      | false =>
          simp only [Bool.false_or, Bool.not_false, cond_true, List.contains_iff_mem]
          split
          · rename_i known
            rw [eraseDups_concat_of_mem (List.mem_eraseDups.mp known)]
          · rename_i fresh
            rw [eraseDups_concat_of_not_mem fun known => fresh (List.mem_eraseDups.mpr known)]

theorem mem_absentNames {present offered : List Build} {name : String} :
    name ∈ absentNames present offered ↔
      (∃ build ∈ offered, build.name = name) ∧ ∀ build ∈ present, build.name ≠ name := by
  rw [absentNames_eq, List.mem_eraseDups, List.mem_filter, List.mem_map]
  simp

theorem nodup_absentNames (present offered : List Build) : (absentNames present offered).Nodup := by
  rw [absentNames_eq]
  exact nodup_eraseDups _

end Inventory

end PackageProvider
