import Mathlib.Logic.Relation
import PackageProvider.Proofs.Memory.State

set_option autoImplicit false

/-! Which builds the search for requirements brings in: those of names that are not
installed, reached by requirements from what was chosen, each name at most once. -/

namespace PackageProvider.Memory.Database

open Relation (ReflTransGen)

def Requires (database : Database) (name dependency : String) : Prop :=
  dependency ∈ database.requirements name

def Leads (database : Database) (members : List Build) (above below : Build) : Prop :=
  below ∈ members ∧ database.Requires above.name below.name

/-- Why a build is a member of an install set: it is one of the roots, or the newest build
of a name that is not installed and that a member requires. -/
inductive Brought (database : Database) (members : List Build) (root : Build → Prop) :
    Build → Prop where
  | root {build : Build} (member : build ∈ members) (chosen : root build) :
      Brought database members root build
  | required {above build : Build} (brought : Brought database members root above)
      (requires : database.Requires above.name build.name)
      (missing : database.hasInstalled build.name = false)
      (best : database.newestAvailable? (fun other => other.name == build.name) = some build)
      (member : build ∈ members) : Brought database members root build

namespace Brought

variable {database : Database} {members larger : List Build} {root wider : Build → Prop}
  {build : Build}

theorem mono (brought : Brought database members root build)
    (grows : ∀ build ∈ members, build ∈ larger) (widens : ∀ build, root build → wider build) :
    Brought database larger wider build := by
  induction brought with
  | root member chosen => exact .root (grows _ member) (widens _ chosen)
  | required _ requires missing best member ih =>
      exact .required ih requires missing best (grows _ member)

theorem led (brought : Brought database members root build) :
    ∃ start ∈ members, root start ∧ ReflTransGen (database.Leads members) start build := by
  induction brought with
  | root member chosen => exact ⟨_, member, chosen, .refl⟩
  | required _ requires _ _ member ih =>
      obtain ⟨start, there, chosen, chain⟩ := ih
      exact ⟨start, there, chosen, chain.tail ⟨member, requires⟩⟩

theorem reached (brought : Brought database members root build) :
    ∃ start, root start ∧ ReflTransGen database.Requires start.name build.name := by
  obtain ⟨start, -, chosen, chain⟩ := brought.led
  exact ⟨start, chosen, chain.lift Build.name fun _ _ leads => leads.2⟩

end Brought

structure Provision (database : Database) (root : Build → Prop) (chosen provided : List Build) :
    Prop where
  kept : ∀ build ∈ chosen, build ∈ provided
  distinct : (provided.map Build.name).Nodup
  brought : ∀ build ∈ provided, Brought database provided root build

theorem distinct_concat {chosen : List Build} {build : Build}
    (distinct : (chosen.map Build.name).Nodup) (fresh : hasName chosen build.name = false) :
    ((chosen ++ [build]).map Build.name).Nodup := by
  rw [List.map_append, List.nodup_append]
  refine ⟨distinct, by simp, ?_⟩
  intro name member other single
  obtain ⟨first, firstMember, firstName⟩ := List.mem_map.mp member
  rw [List.mem_singleton.mp single, ← firstName]
  exact hasName_eq_false_iff.mp fresh first firstMember

theorem provide_provision {database : Database} {root : Build → Prop}
    {chosen provided : List Build} {demands : List Demand}
    (distinct : (chosen.map Build.name).Nodup)
    (brought : ∀ build ∈ chosen, Brought database chosen root build)
    (asked : ∀ demand ∈ demands, ∃ above ∈ chosen,
      database.Requires above.name demand.dependency)
    (result : database.provide chosen demands = .ok provided) :
    Provision database root chosen provided := by
  -- Along the search names stay distinct, each chosen build was brought in by chosen ones,
  -- and each demand is one of a chosen build.
  fun_induction database.provide chosen demands with
  | case1 chosen =>
      cases result
      exact ⟨fun _ member => member, distinct, brought⟩
  | case2 chosen demand rest _ ih =>
      exact ih distinct brought (fun other later => asked other (List.mem_cons_of_mem _ later))
        result
  | case3 => cases result
  | case4 chosen demand rest missing fresh build best ih =>
      have named : build.name = demand.dependency := by
        have passes := (List.mem_filter.mp (Build.mem_of_newest? best)).2
        simpa using passes
      obtain ⟨above, aboveMember, requires⟩ := asked demand List.mem_cons_self
      rw [Bool.not_eq_true] at missing
      rw [← named] at missing fresh best requires
      have grows : ∀ other ∈ chosen, other ∈ chosen ++ [build] := fun _ member =>
        List.mem_append_left [build] member
      have widened (other : Build) (member : other ∈ chosen) :
          Brought database (chosen ++ [build]) root other :=
        (brought other member).mono grows fun _ isRoot => isRoot
      have last : build ∈ chosen ++ [build] := List.mem_append_right chosen List.mem_cons_self
      have further := ih (distinct_concat distinct fresh) ?_ ?_ result
      · exact ⟨fun other member => further.kept other (grows other member), further.distinct,
          further.brought⟩
      · intro other member
        rcases List.mem_append.mp member with early | single
        · exact widened other early
        · rw [List.mem_singleton.mp single]
          exact .required (widened above aboveMember) requires missing best last
      · intro other member
        rcases List.mem_append.mp member with own | later
        · obtain ⟨dependency, required, same⟩ := List.mem_map.mp own
          exact ⟨build, last, same ▸ required⟩
        · obtain ⟨earlier, earlierMember, requiresOther⟩ :=
            asked other (List.mem_cons_of_mem _ later)
          exact ⟨earlier, grows earlier earlierMember, requiresOther⟩
  | case5 chosen demand rest _ _ ih =>
      exact ih distinct brought (fun other later => asked other (List.mem_cons_of_mem _ later))
        result

/-! ### What is brought in is complete -/

def Covers (database : Database) (builds : List Build) (name : String) : Prop :=
  database.hasInstalled name = true ∨ hasName builds name = true

def Supplied (database : Database) (builds : List Build) : Prop :=
  ∀ build ∈ builds, ∀ dependency,
    database.Requires build.name dependency → database.Covers builds dependency

/-- Whether all that the chosen builds require is covered or still demanded. -/
def Awaited (database : Database) (chosen : List Build) (demands : List Demand) : Prop :=
  ∀ build ∈ chosen, ∀ dependency, database.Requires build.name dependency →
    database.Covers chosen dependency ∨ ∃ demand ∈ demands, demand.dependency = dependency

section

variable {database : Database} {chosen : List Build} {demand : Demand} {rest : List Demand}
  {build : Build}

theorem Covers.concat {name : String} (covers : database.Covers chosen name) :
    database.Covers (chosen ++ [build]) name := by
  refine covers.imp_right fun named => ?_
  obtain ⟨other, member, sameName⟩ := hasName_iff.mp named
  exact hasName_iff.mpr ⟨other, List.mem_append_left [build] member, sameName⟩

theorem Awaited.supplied (awaited : database.Awaited chosen []) : database.Supplied chosen := by
  intro build member dependency requires
  refine (awaited build member dependency requires).resolve_right ?_
  rintro ⟨demand, impossible, -⟩
  cases impossible

theorem Awaited.leaveOut {demands : List Demand} (awaited : database.Awaited chosen demands)
    (covered : ∀ demand ∈ demands, demand ∈ rest ∨ database.Covers chosen demand.dependency) :
    database.Awaited chosen rest := by
  intro build member dependency requires
  rcases awaited build member dependency requires with already | ⟨demand, waiting, same⟩
  · exact .inl already
  · rcases covered demand waiting with later | covers
    · exact .inr ⟨demand, later, same⟩
    · exact .inl (same ▸ covers)

theorem Awaited.tail (awaited : database.Awaited chosen (demand :: rest))
    (covers : database.Covers chosen demand.dependency) : database.Awaited chosen rest := by
  refine awaited.leaveOut fun other waiting => ?_
  rcases List.mem_cons.mp waiting with first | later
  · exact .inr (first ▸ covers)
  · exact .inl later

theorem Awaited.concat (awaited : database.Awaited chosen rest) (build : Build) :
    database.Awaited (chosen ++ [build]) (database.demands build.name ++ rest) := by
  intro other member dependency requires
  rcases List.mem_append.mp member with early | single
  · rcases awaited other early dependency requires with covered | ⟨waited, waiting, same⟩
    · exact .inl covered.concat
    · exact .inr ⟨waited, List.mem_append_right _ waiting, same⟩
  · rw [List.mem_singleton.mp single] at requires
    exact .inr ⟨_, List.mem_append_left rest (List.mem_map_of_mem requires), rfl⟩

end

theorem provide_supplied {database : Database} {chosen provided : List Build}
    {demands : List Demand} (awaited : database.Awaited chosen demands)
    (result : database.provide chosen demands = .ok provided) : database.Supplied provided := by
  fun_induction database.provide chosen demands with
  | case1 chosen =>
      cases result
      exact awaited.supplied
  | case2 chosen demand rest there ih => exact ih (awaited.tail (.inl there)) result
  | case3 => cases result
  | case4 chosen demand rest _ _ build best ih =>
      have named : build.name = demand.dependency := by
        have passes := (List.mem_filter.mp (Build.mem_of_newest? best)).2
        simpa using passes
      -- The demand that called for the build is covered by it from now on.
      have covers : database.Covers (chosen ++ [build]) demand.dependency :=
        .inr (hasName_iff.mpr ⟨build, List.mem_append_right chosen List.mem_cons_self, named⟩)
      refine ih ((awaited.concat build).leaveOut fun other waiting => ?_) result
      rcases List.mem_append.mp waiting with own | earlier
      · exact .inl (List.mem_append_left rest own)
      · rcases List.mem_cons.mp earlier with first | later
        · exact .inr (first ▸ covers)
        · exact .inl (List.mem_append_right _ later)
  | case5 chosen demand rest _ taken ih =>
      exact ih (awaited.tail (.inr (Bool.not_eq_false _ ▸ taken))) result

end PackageProvider.Memory.Database
