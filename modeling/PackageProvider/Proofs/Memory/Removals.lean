import Mathlib
import PackageProvider.Proofs.DepthFirst
import PackageProvider.Proofs.Memory.Accounts
import PackageProvider.Proofs.Memory.Calls

set_option autoImplicit false

/-! What a goal takes away: the installed builds that its removals name, and all that lean on them
through what they require, each build once. The walk that takes them ends on all requirements,
those that lead back to where they started as well. -/

namespace PackageProvider.Memory

namespace Database

open Relation (ReflTransGen)

variable {database : Database} {goal : List Directive} {transaction extended : Transaction}
  {selection : Selection} {build : Build}

/-! ### The walk over dependents -/

/-- What becomes of a build that has to go: it goes already, or it goes now, with the builds that
require its name below it. -/
def fell (database : Database) (gone : List Build) (build : Build) :
    Except EngineError (Option (List Build × List Build)) :=
  if gone.contains build then .ok none
  else .ok (some (gone ++ [build], database.dependents build.name))

theorem fell_shrinks (database : Database) :
    Shrinks database.fell (fun build => build ∈ database.installed)
      fun gone => (database.staying gone).length := by
  intro gone build inner below there enters
  unfold fell at enters
  split at enters
  · cases enters
  · rename_i stays
    cases enters
    constructor
    · exact database.staying_lt gone build there (Bool.not_eq_true _ ▸ stays)
    · intro other depends
      exact (mem_dependents.mp depends).1

theorem cascade_isSearch (database : Database) :
    IsSearch database.fell (fun build => build ∈ database.installed)
      fun gone pending => .ok (database.cascade gone pending) := by
  constructor
  · intro gone
    rw [cascade]
  · intro gone build rest there
    rw [cascade, fell]
    cases goes : gone.contains build with
    | true =>
        rw [dif_neg (fun stays => Bool.false_ne_true stays.2.symm)]
        rfl
    | false =>
        rw [dif_pos ⟨there, rfl⟩]
        rfl

theorem depthFirst_fell_iff (gone : List Build) (spec : String)
    (result : Except EngineError (List Build)) :
    DepthFirst database.fell gone (database.installed.filter fun build => build.isNamedBy spec)
        result ↔
      result = .ok (database.cascade gone
        (database.installed.filter fun build => build.isNamedBy spec)) :=
  DepthFirst.iff_search database.cascade_isSearch database.fell_shrinks fun _ victim =>
    (List.mem_filter.mp victim).1

/-! ### What goes -/

theorem extend_removals_nodup (distinct : transaction.removals.Nodup)
    (result : database.extend transaction selection = .ok extended) :
    extended.removals.Nodup := by
  obtain same | ⟨victims, -, same⟩ | ⟨build, provided, -, -, -, same⟩ := extend_cases result
  · rw [same]
    exact distinct
  · rw [same]
    exact cascade_nodup distinct
  · rw [same]
    exact distinct

theorem resolution_removals_nodup (resolves : database.resolution goal = .ok transaction) :
    transaction.removals.Nodup :=
  (resolution_keeps (fun _ transaction => transaction.removals.Nodup) List.nodup_nil
    (fun _ _ _ _ _ distinct _ extension => extend_removals_nodup distinct extension)
    resolves).1

def Names (goal : List Directive) (build : Build) : Prop :=
  ∃ directive ∈ goal, directive.verb = .remove ∧ build.isNamedBy directive.spec = true

theorem condemned_iff (resolved : Resolved database goal transaction) :
    database.Condemned goal build ↔ build ∈ database.installed ∧ Names goal build := by
  constructor
  · rintro ⟨⟨verb, spec⟩, member, victims, selected, victim⟩
    cases verb_of_select_remove selected
    obtain ⟨chosen, -⟩ := selectRemove_cases selected
    cases chosen
    obtain ⟨there, named⟩ := List.mem_filter.mp victim
    exact ⟨there, _, member, rfl, named⟩
  · rintro ⟨there, ⟨verb, spec⟩, member, removes, named⟩
    cases removes
    obtain ⟨selection, selected⟩ := resolved.selects _ member
    obtain ⟨chosen, -⟩ := selectRemove_cases selected
    subst chosen
    exact ⟨_, member, _, selected, List.mem_filter.mpr ⟨there, named⟩⟩

theorem mem_removals_iff (resolved : Resolved database goal transaction) :
    build ∈ transaction.removals ↔
      ∃ victim ∈ database.installed, Names goal victim ∧
        ReflTransGen database.LeansOn build victim := by
  rw [resolved.removes build]
  constructor
  · intro falls
    obtain ⟨victim, there, condemned, chain⟩ := falls.leans
    exact ⟨victim, there, ((condemned_iff resolved).mp condemned).2, chain⟩
  · rintro ⟨victim, there, names, chain⟩
    exact .of_leans there ((condemned_iff resolved).mpr ⟨there, names⟩) chain

end Database

open Relation (ReflTransGen)

/-- Walks over dependents come to an end, and a goal that is resolved takes away just the
installed builds that lean on one which a removal names. -/
theorem resolve_removals_exact (database : Database) (handle : Handle)
    (journal : List JournalEntry) :
    (∀ gone spec result,
      DepthFirst database.fell gone (database.installed.filter fun build => build.isNamedBy spec)
          result ↔
        result = .ok (database.cascade gone
          (database.installed.filter fun build => build.isNamedBy spec))) ∧
    ∀ (transaction : Transaction) (resolved : Journaled (Database × Handle)),
      resolve ⟨(database, handle), journal⟩ = .ok transaction resolved →
        transaction.removals.Nodup ∧
          ∀ build, build ∈ transaction.removals ↔
            ∃ victim ∈ database.installed,
              (∃ directive ∈ handle.goal,
                directive.verb = .remove ∧ victim.isNamedBy directive.spec = true) ∧
              ReflTransGen database.LeansOn build victim := by
  constructor
  · exact Database.depthFirst_fell_iff
  · intro transaction resolved resolves
    obtain ⟨-, -, -, resolution⟩ := of_resolve_ok resolves
    constructor
    · exact Database.resolution_removals_nodup resolution
    · intro build
      exact Database.mem_removals_iff (Database.resolution_resolved resolution)

def perlCycle : Database where
  installed := [⟨"perl", "5.38-1", "x86_64"⟩, ⟨"perl-libs", "5.38-1", "x86_64"⟩,
    ⟨"perl-libs", "5.38-1", "i686"⟩, ⟨"perl-libs", "5.38-1", "i686"⟩,
    ⟨"perl-libs", "5.36-1", "x86_64"⟩, ⟨"git", "2.43-1", "x86_64"⟩, ⟨"jq", "1.7-1", "x86_64"⟩]
  requires := [("perl", "perl-libs"), ("perl-libs", "perl"), ("perl-libs", "perl-libs"),
    ("git", "perl")]

theorem perlCycle_removals_exact :
    DepthFirst perlCycle.fell [] (perlCycle.installed.filter fun build => build.isNamedBy "git")
        (.ok [⟨"git", "2.43-1", "x86_64"⟩]) ∧
      ∃ transaction resolved,
        resolve ⟨(perlCycle,
            { goal := [⟨.remove, "perl-libs-5.38-1.i686"⟩, ⟨.remove, "git"⟩] }), []⟩ =
            .ok transaction resolved ∧
          transaction.removals.length = 5 ∧ transaction.removals.Nodup ∧
            Relation.ReflTransGen perlCycle.LeansOn ⟨"git", "2.43-1", "x86_64"⟩
              ⟨"perl-libs", "5.38-1", "i686"⟩ ∧
            ⟨"git", "2.43-1", "x86_64"⟩ ∈ transaction.removals := by
  have resolution : perlCycle.resolution
      [⟨.remove, "perl-libs-5.38-1.i686"⟩, ⟨.remove, "git"⟩] =
        .ok ⟨[], [⟨"perl-libs", "5.38-1", "i686"⟩, ⟨"perl", "5.38-1", "x86_64"⟩,
          ⟨"perl-libs", "5.38-1", "x86_64"⟩, ⟨"perl-libs", "5.36-1", "x86_64"⟩,
          ⟨"git", "2.43-1", "x86_64"⟩]⟩ := by
    cbv
  obtain ⟨resolved, resolves⟩ := resolve_succeeds
    { goal := [⟨.remove, "perl-libs-5.38-1.i686"⟩, ⟨.remove, "git"⟩] } []
    (Database.calm_of_no_rules rfl) rfl resolution
  have walked : perlCycle.cascade []
      (perlCycle.installed.filter fun build => build.isNamedBy "git") =
        [⟨"git", "2.43-1", "x86_64"⟩] := by
    cbv
  have removalsExact := resolve_removals_exact perlCycle
    { goal := [⟨.remove, "perl-libs-5.38-1.i686"⟩, ⟨.remove, "git"⟩] } []
  obtain ⟨distinct, member_iff⟩ := removalsExact.2 _ _ resolves
  have chain : Relation.ReflTransGen perlCycle.LeansOn ⟨"git", "2.43-1", "x86_64"⟩
      ⟨"perl-libs", "5.38-1", "i686"⟩ := by
    refine .tail (.single (?_ : perlCycle.LeansOn _ ⟨"perl", "5.38-1", "x86_64"⟩)) ?_ <;>
      · unfold Database.LeansOn Database.Requires
        decide
  constructor
  · exact (removalsExact.1 _ _ _).mpr (congrArg Except.ok walked.symm)
  · refine ⟨_, resolved, resolves, rfl, distinct, chain, (member_iff _).mpr ?_⟩
    refine ⟨⟨"perl-libs", "5.38-1", "i686"⟩, by decide, ⟨_, List.mem_cons_self, rfl, ?_⟩, chain⟩
    decide +kernel

end PackageProvider.Memory
