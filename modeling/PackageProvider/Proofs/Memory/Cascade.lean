import Mathlib.Logic.Relation
import PackageProvider.Proofs.Memory.Requirements

set_option autoImplicit false

/-! Which builds a removal takes: those it starts from that are installed, and with each
the installed builds that require its name. -/

namespace PackageProvider.Memory.Database

open Relation (ReflTransGen)

variable {database : Database} {gone pending : List Build} {build : Build}

theorem mem_dependents {name : String} :
    build ∈ database.dependents name ↔
      build ∈ database.installed ∧ database.Requires build.name name := by
  simp only [dependents, List.mem_filter, List.contains_iff_mem, Requires]

def LeansOn (database : Database) (build other : Build) : Prop :=
  build ∈ database.installed ∧ other ∈ database.installed ∧
    database.Requires build.name other.name

/-- Why a build is removed: it is one of the seeds, or it requires the name of a build that
is removed. Only what is installed is removed. -/
inductive Falls (database : Database) (seed : Build → Prop) : Build → Prop where
  | seed {build : Build} (installed : build ∈ database.installed) (chosen : seed build) :
      Falls database seed build
  | dependent {above build : Build} (falls : Falls database seed above)
      (installed : build ∈ database.installed)
      (requires : database.Requires build.name above.name) : Falls database seed build

namespace Falls

variable {seed wider : Build → Prop}

theorem installed (falls : Falls database seed build) : build ∈ database.installed := by
  cases falls with
  | seed installed => exact installed
  | dependent _ installed => exact installed

theorem mono (falls : Falls database seed build) (widens : ∀ build, seed build → wider build) :
    Falls database wider build := by
  induction falls with
  | seed installed chosen => exact .seed installed (widens _ chosen)
  | dependent _ installed requires ih => exact .dependent ih installed requires

theorem leans (falls : Falls database seed build) :
    ∃ victim ∈ database.installed, seed victim ∧
      ReflTransGen database.LeansOn build victim := by
  induction falls with
  | seed there chosen => exact ⟨_, there, chosen, .refl⟩
  | dependent above there requires ih =>
      obtain ⟨victim, victimThere, chosen, chain⟩ := ih
      exact ⟨victim, victimThere, chosen, chain.head ⟨there, above.installed, requires⟩⟩

theorem of_leans {victim : Build} (there : victim ∈ database.installed) (chosen : seed victim)
    (chain : ReflTransGen database.LeansOn build victim) : Falls database seed build := by
  induction chain using ReflTransGen.head_induction_on with
  | refl => exact .seed there chosen
  | head leansOn _ ih => exact .dependent ih leansOn.1 leansOn.2.2

theorem reaches (falls : Falls database seed build) :
    ∃ victim, seed victim ∧ ReflTransGen database.Requires build.name victim.name := by
  obtain ⟨victim, -, chosen, chain⟩ := falls.leans
  exact ⟨victim, chosen, chain.lift Build.name fun _ _ leansOn => leansOn.2.2⟩

theorem of_same_name {other : Build} (falls : Falls database seed build)
    (together : ∀ first second, seed first → second ∈ database.installed →
      second.name = first.name → seed second)
    (there : other ∈ database.installed) (sameName : other.name = build.name) :
    Falls database seed other := by
  cases falls with
  | seed _ chosen => exact .seed there (together _ other chosen there sameName)
  | dependent falls _ requires => exact .dependent falls there (sameName ▸ requires)

end Falls

theorem subset_cascade (gone pending : List Build) :
    ∀ build ∈ gone, build ∈ database.cascade gone pending := by
  fun_induction database.cascade gone pending with
  | case1 gone => exact fun _ member => member
  | case2 gone first rest _ ih =>
      exact fun build member => ih build (List.mem_append_left [first] member)
  | case3 gone first rest _ ih => exact ih

theorem pending_subset_cascade (gone pending : List Build) :
    ∀ build ∈ pending, build ∈ database.installed → build ∈ database.cascade gone pending := by
  fun_induction database.cascade gone pending with
  | case1 gone => exact fun _ impossible => nomatch impossible
  | case2 gone first rest _ ih =>
      intro build member there
      rcases List.mem_cons.mp member with same | later
      · subst same
        exact subset_cascade _ _ build (List.mem_append_right gone List.mem_cons_self)
      · exact ih build (List.mem_append_right _ later) there
  | case3 gone first rest stays ih =>
      intro build member there
      rcases List.mem_cons.mp member with same | later
      · subst same
        -- An installed build is passed over only where it goes already.
        have taken : build ∈ gone := by
          refine Classical.byContradiction fun missing => stays ⟨there, ?_⟩
          simpa using missing
        exact subset_cascade gone rest build taken
      · exact ih build later there

theorem cascade_nodup (distinct : gone.Nodup) : (database.cascade gone pending).Nodup := by
  fun_induction database.cascade gone pending with
  | case1 gone => exact distinct
  | case2 gone build rest goes ih =>
      refine ih (List.nodup_append.mpr ⟨distinct, List.nodup_singleton build, ?_⟩)
      intro other member last single same
      rw [List.mem_singleton.mp single] at same
      have missing : build ∉ gone := by simpa using goes.2
      exact missing (same ▸ member)
  | case3 gone build rest _ ih => exact ih distinct

theorem cascade_closed
    (covered : ∀ above ∈ gone, ∀ build ∈ database.dependents above.name,
      build ∈ gone ∨ build ∈ pending) :
    ∀ above ∈ database.cascade gone pending, ∀ build ∈ database.dependents above.name,
      build ∈ database.cascade gone pending := by
  fun_induction database.cascade gone pending with
  | case1 gone =>
      intro above member build depends
      exact (covered above member build depends).resolve_right List.not_mem_nil
  | case2 gone first rest _ ih =>
      refine ih fun above member build depends => ?_
      rcases List.mem_append.mp member with early | single
      · rcases covered above early build depends with goes | waits
        · exact .inl (List.mem_append_left [first] goes)
        · rcases List.mem_cons.mp waits with same | later
          · exact .inl (List.mem_append_right gone (List.mem_singleton.mpr same))
          · exact .inr (List.mem_append_right _ later)
      · rw [List.mem_singleton.mp single] at depends
        exact .inr (List.mem_append_left rest depends)
  | case3 gone first rest stays ih =>
      refine ih fun above member build depends => ?_
      rcases covered above member build depends with goes | waits
      · exact .inl goes
      · rcases List.mem_cons.mp waits with same | later
        · subst same
          refine .inl (Classical.byContradiction fun missing => stays ⟨?_, ?_⟩)
          · exact (mem_dependents.mp depends).1
          · simpa using missing
        · exact .inr later

theorem falls_of_mem_cascade (seed : Build → Prop)
    (known : ∀ build ∈ gone, Falls database seed build)
    (waiting : ∀ build ∈ pending, build ∈ database.installed → Falls database seed build) :
    ∀ build ∈ database.cascade gone pending, Falls database seed build := by
  fun_induction database.cascade gone pending with
  | case1 gone => exact known
  | case2 gone first rest goes ih =>
      have firstFalls := waiting first List.mem_cons_self goes.1
      refine ih ?_ ?_
      · intro build member
        rcases List.mem_append.mp member with early | single
        · exact known build early
        · exact List.mem_singleton.mp single ▸ firstFalls
      · intro build member there
        rcases List.mem_append.mp member with depends | later
        · exact .dependent firstFalls there (mem_dependents.mp depends).2
        · exact waiting build (List.mem_cons_of_mem first later) there
  | case3 gone first rest _ ih =>
      exact ih known fun build later => waiting build (List.mem_cons_of_mem first later)

/-- Started on a removal that is complete, a search adds just what falls with the pending
builds. -/
theorem mem_cascade_iff {seed : Build → Prop}
    (complete : ∀ build, build ∈ gone ↔ Falls database seed build) :
    build ∈ database.cascade gone pending ↔
      Falls database (fun build => seed build ∨ build ∈ pending) build := by
  constructor
  · intro member
    refine falls_of_mem_cascade _ ?_ ?_ build member
    · intro other goes
      exact ((complete other).mp goes).mono fun _ chosen => .inl chosen
    · intro other waits there
      exact .seed there (.inr waits)
  · intro falls
    induction falls with
    | seed there chosen =>
        rcases chosen with early | waits
        · exact subset_cascade gone pending _ ((complete _).mpr (.seed there early))
        · exact pending_subset_cascade gone pending _ waits there
    | dependent falls there requires ih =>
        -- Being complete, `gone` has its dependents already, so none of them has to wait.
        refine cascade_closed ?_ _ ih _ (mem_dependents.mpr ⟨there, requires⟩)
        intro above goes other depends
        obtain ⟨otherThere, otherRequires⟩ := mem_dependents.mp depends
        exact .inl ((complete other).mpr
          (.dependent ((complete above).mp goes) otherThere otherRequires))

end PackageProvider.Memory.Database
