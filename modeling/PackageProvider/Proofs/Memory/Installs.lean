import Mathlib
import PackageProvider.Proofs.DepthFirst
import PackageProvider.Proofs.Memory.Accounts
import PackageProvider.Proofs.Memory.Calls

set_option autoImplicit false

/-! What a goal brings in. Each build that comes is a newest one of those that a directive asks
for, or a newest one of a missing name that is required by builds that come; all that they require
is there or comes along. The walk that brings them in ends on all requirements, those that lead
back to where they started as well. -/

namespace PackageProvider.Memory

namespace Database

open Relation (ReflTransGen TransGen)

variable {database : Database} {goal : List Directive} {transaction : Transaction}
  {members : List Build} {build : Build}

/-! ### The walk for requirements -/

def bring (database : Database) (chosen : List Build) (demand : Demand) :
    Except EngineError (Option (List Build × List Demand)) :=
  if database.hasInstalled demand.dependency || hasName chosen demand.dependency then .ok none
  else
    match database.newestAvailable? fun build => build.name == demand.dependency with
    | none =>
        .error (.conflict
          ("nothing provides " ++ demand.dependency ++ " needed by " ++ demand.requiredBy))
    | some build => .ok (some (chosen ++ [build], database.demands build.name))

theorem bring_shrinks (database : Database) :
    Shrinks database.bring (fun _ => True) fun chosen => (database.unchosen chosen).length := by
  intro chosen demand inner below _ enters
  constructor
  · unfold bring at enters
    split at enters
    · cases enters
    · rename_i unmet
      cases found : database.newestAvailable? fun build => build.name == demand.dependency with
      | none =>
          rw [found] at enters
          cases enters
      | some best =>
          rw [found] at enters
          cases enters
          have fresh : hasName chosen demand.dependency = false := by
            rw [Bool.not_eq_true, Bool.or_eq_false_iff] at unmet
            exact unmet.2
          exact database.unchosen_lt chosen demand.dependency best fresh found
  · intro other member
    trivial

theorem provide_isSearch (database : Database) :
    IsSearch database.bring (fun _ => True) database.provide := by
  constructor
  · intro chosen
    rw [provide]
  · intro chosen demand rest _
    rw [provide, bring]
    cases there : database.hasInstalled demand.dependency with
    | true => rfl
    | false =>
        cases taken : hasName chosen demand.dependency with
        | true => rfl
        | false =>
            simp only [Bool.false_eq_true, if_false, Bool.or_self, dite_true]
            split
            · rename_i none
              rw [none]
              rfl
            · rename_i best found
              rw [found]
              rfl

theorem depthFirst_bring_iff (chosen : List Build) (demands : List Demand)
    (result : Except EngineError (List Build)) :
    DepthFirst database.bring chosen demands result ↔ result = database.provide chosen demands :=
  DepthFirst.iff_search database.provide_isSearch database.bring_shrinks fun _ _ => trivial

/-! ### What comes is supplied -/

theorem extend_supplied {selection : Selection} {extended : Transaction}
    (supplied : database.Supplied transaction.installs)
    (result : database.extend transaction selection = .ok extended) :
    database.Supplied extended.installs := by
  obtain same | ⟨victims, -, same⟩ | ⟨build, provided, -, -, provides, same⟩ := extend_cases result
  · rw [same]
    exact supplied
  · rw [same]
    exact supplied
  · rw [same]
    have awaited : database.Awaited transaction.installs [] :=
      fun other member dependency requires => .inl (supplied other member dependency requires)
    have started := awaited.concat build
    rw [List.append_nil] at started
    exact provide_supplied started provides

theorem resolution_supplied (resolves : database.resolution goal = .ok transaction) :
    database.Supplied transaction.installs := by
  have start : database.Supplied ({} : Transaction).installs :=
    fun _ impossible => nomatch impossible
  exact (resolution_keeps (fun _ transaction => database.Supplied transaction.installs) start
    (fun _ _ _ _ _ supplied _ extension => extend_supplied supplied extension) resolves).1

/-! ### Why builds come -/

/-- Whether some directive asks for the build: its spec names the build, and no newer one that
is on offer. -/
def AsksFor (database : Database) (goal : List Directive) (build : Build) : Prop :=
  ∃ directive ∈ goal, directive.verb ≠ .remove ∧ build.isNamedBy directive.spec = true ∧
    ∀ other ∈ database.available, other.isNamedBy directive.spec = true → ¬ other.Exceeds build

theorem asksFor_of_chosen (chosen : database.Chosen goal build) : database.AsksFor goal build := by
  obtain ⟨⟨verb, spec⟩, member, selected⟩ := chosen
  obtain ⟨-, named, highest⟩ := best_of_select selected
  have keeps : verb ≠ .remove := by
    intro removes
    subst removes
    obtain ⟨different, -⟩ := selectRemove_cases selected
    cases different
  exact ⟨⟨verb, spec⟩, member, keeps, named, highest⟩

/-- Whether a build is the newest on offer of a name that is missing, and members require it from
a build on that is asked for. -/
def IsRequired (database : Database) (goal : List Directive) (members : List Build)
    (build : Build) : Prop :=
  database.hasInstalled build.name = false ∧
    (∀ other ∈ database.available, other.name = build.name → ¬ other.Exceeds build) ∧
    ∃ start ∈ members, database.AsksFor goal start ∧
      TransGen (database.Leads members) start build

theorem Brought.asksFor_or_isRequired
    (brought : Brought database members (database.Chosen goal) build) :
    database.AsksFor goal build ∨ database.IsRequired goal members build := by
  cases brought with
  | root _ chosen => exact .inl (asksFor_of_chosen chosen)
  | required above requires missing best member =>
      have highest : ∀ other ∈ database.available, other.name = build.name →
          ¬ other.Exceeds build := by
        intro other offered sameName
        exact not_exceeds_newestAvailable? best offered (beq_iff_eq.mpr sameName)
      obtain ⟨start, there, chosen, chain⟩ := above.led
      exact .inr ⟨missing, highest, start, there, asksFor_of_chosen chosen,
        .tail' chain ⟨member, requires⟩⟩

structure InstallsExactly (database : Database) (goal : List Directive)
    (transaction : Transaction) : Prop where
  distinct : (transaction.installs.map Build.name).Nodup
  apart : ∀ added ∈ transaction.installs, ∀ removed ∈ transaction.removals,
    added.name ≠ removed.name
  offered : ∀ build ∈ transaction.installs, build ∈ database.available
  taken : ∀ directive ∈ goal, ∀ build, database.select directive = .ok (.install build) →
    hasName transaction.installs build.name = true
  reason : ∀ build ∈ transaction.installs,
    database.AsksFor goal build ∨ database.IsRequired goal transaction.installs build
  supplied : ∀ build ∈ transaction.installs, ∀ dependency,
    database.Requires build.name dependency →
      database.hasInstalled dependency = true ∨
        hasName transaction.installs dependency = true

theorem resolution_installsExactly (resolves : database.resolution goal = .ok transaction) :
    database.InstallsExactly goal transaction := by
  have resolved := resolution_resolved resolves
  constructor
  · exact resolved.distinct
  · intro added comes removed goes
    exact resolved.name_ne comes goes
  · exact resolved.offered
  · intro directive member build selected
    exact resolved.taken build ⟨directive, member, selected⟩
  · intro build member
    exact (resolved.brought build member).asksFor_or_isRequired
  · exact resolution_supplied resolves

end Database

/-- Walks for requirements come to an end, and a goal that is resolved brings in just what it
needs. -/
theorem resolve_installs_exact (database : Database) (handle : Handle)
    (journal : List JournalEntry) :
    (∀ chosen demands result,
      DepthFirst database.bring chosen demands result ↔
        result = database.provide chosen demands) ∧
    ∀ (transaction : Transaction) (resolved : Journaled (Database × Handle)),
      resolve ⟨(database, handle), journal⟩ = .ok transaction resolved →
        database.InstallsExactly handle.goal transaction := by
  constructor
  · exact Database.depthFirst_bring_iff
  · intro transaction resolved resolves
    obtain ⟨-, -, -, resolution⟩ := of_resolve_ok resolves
    exact Database.resolution_installsExactly resolution

def vimCycle : Database where
  installed := [⟨"zlib", "1.2-1", "x86_64"⟩]
  available := [⟨"vim", "9.1-1", "x86_64"⟩, ⟨"vim", "9.0-1", "x86_64"⟩,
    ⟨"vim-common", "9.1-1", "noarch"⟩, ⟨"zlib", "1.3-1", "x86_64"⟩]
  requires := [("vim", "vim-common"), ("vim", "zlib"), ("vim-common", "vim"),
    ("vim-common", "vim-common")]

theorem vimCycle_installs_exact :
    DepthFirst vimCycle.bring [⟨"vim", "9.1-1", "x86_64"⟩] (vimCycle.demands "vim")
        (.ok [⟨"vim", "9.1-1", "x86_64"⟩, ⟨"vim-common", "9.1-1", "noarch"⟩]) ∧
      ∃ transaction resolved,
        resolve ⟨(vimCycle, { goal := [⟨.install, "vim"⟩, ⟨.upgrade, "zlib"⟩] }), []⟩ =
            .ok transaction resolved ∧
          transaction.installs = [⟨"vim", "9.1-1", "x86_64"⟩,
            ⟨"vim-common", "9.1-1", "noarch"⟩, ⟨"zlib", "1.3-1", "x86_64"⟩] ∧
          vimCycle.InstallsExactly [⟨.install, "vim"⟩, ⟨.upgrade, "zlib"⟩] transaction := by
  have resolution : vimCycle.resolution [⟨.install, "vim"⟩, ⟨.upgrade, "zlib"⟩] =
      .ok ⟨[⟨"vim", "9.1-1", "x86_64"⟩, ⟨"vim-common", "9.1-1", "noarch"⟩,
        ⟨"zlib", "1.3-1", "x86_64"⟩], []⟩ := by
    cbv
  obtain ⟨resolved, resolves⟩ := resolve_succeeds
    { goal := [⟨.install, "vim"⟩, ⟨.upgrade, "zlib"⟩] } []
    (Database.calm_of_no_rules rfl) rfl resolution
  have walked : vimCycle.provide [⟨"vim", "9.1-1", "x86_64"⟩] (vimCycle.demands "vim") =
      .ok [⟨"vim", "9.1-1", "x86_64"⟩, ⟨"vim-common", "9.1-1", "noarch"⟩] := by
    cbv
  have installsExact := resolve_installs_exact vimCycle
    { goal := [⟨.install, "vim"⟩, ⟨.upgrade, "zlib"⟩] } []
  constructor
  · exact (installsExact.1 _ _ _).mpr walked.symm
  · exact ⟨_, resolved, resolves, rfl, installsExact.2 _ _ resolves⟩

end PackageProvider.Memory
