import Mathlib
import PackageProvider.Proofs.Memory.Applied
import PackageProvider.Proofs.Memory.Converging
import PackageProvider.Proofs.Memory.Installs

set_option autoImplicit false

/-! Whether what is installed has what it requires, and what a transaction does to that. A
removal takes along the installed builds that require what goes, and an installation brings
in what it requires and is missing. What is missed is a requirement of a build that comes,
met by builds that go. -/

namespace PackageProvider.Memory

namespace Database

variable {database : Database} {goal : List Directive} {transaction : Transaction}
  {name : String}

def IsConsistent (database : Database) : Prop :=
  ∀ build ∈ database.installed, ∀ dependency,
    database.Requires build.name dependency → database.hasInstalled dependency = true

instance (database : Database) : Decidable database.IsConsistent :=
  inferInstanceAs (Decidable (∀ build ∈ database.installed,
    ∀ dependency ∈ database.requirements build.name, database.hasInstalled dependency = true))

theorem Untouched.isConsistent {before after : Database} (same : before.Untouched after) :
    after.IsConsistent ↔ before.IsConsistent := by
  simp only [IsConsistent, Requires, same.installed, same.requirements, same.hasInstalled]

def Loses (database : Database) (transaction : Transaction) (name : String) : Prop :=
  database.hasInstalled name = true ∧
    ∀ build ∈ database.installedNamed name, build ∈ transaction.removals

instance (database : Database) (transaction : Transaction) (name : String) :
    Decidable (database.Loses transaction name) :=
  inferInstanceAs (Decidable (_ ∧ _))

/-! ### What applying leaves -/

theorem hasInstalled_applied_iff (distinct : (transaction.installs.map Build.name).Nodup) :
    (database.applied transaction).hasInstalled name = true ↔
      hasName transaction.installs name = true ∨
        ∃ build ∈ database.installedNamed name, build ∉ transaction.removals := by
  constructor
  · intro there
    obtain ⟨build, member, sameName⟩ := hasInstalled_iff.mp there
    rcases (mem_applied_iff distinct).mp member with ⟨old, stays, -⟩ | added
    · exact .inr ⟨build, mem_installedNamed.mpr ⟨old, sameName⟩, stays⟩
    · exact .inl (hasName_iff.mpr ⟨build, added, sameName⟩)
  · rintro (installs | ⟨build, old, stays⟩)
    · exact database.hasInstalled_applied_of_install distinct installs
    · obtain ⟨member, sameName⟩ := mem_installedNamed.mp old
      cases installs : hasName transaction.installs name with
      | true => exact database.hasInstalled_applied_of_install distinct installs
      | false =>
          -- Nothing of its name comes, so nothing takes the place of the build.
          refine hasInstalled_iff.mpr
            ⟨build, (mem_applied_iff distinct).mpr (.inl ⟨member, stays, ?_⟩), sameName⟩
          intro added addedMember
          have other := hasName_eq_false_iff.mp installs added addedMember
          rw [sharesPlace, Bool.and_eq_false_iff]
          exact .inl (beq_eq_false_iff_ne.mpr fun same => other (same.symm.trans sameName))

theorem hasInstalled_applied_of_not_loses (distinct : (transaction.installs.map Build.name).Nodup)
    (there : database.hasInstalled name = true) (keeps : ¬ database.Loses transaction name) :
    (database.applied transaction).hasInstalled name = true := by
  refine (hasInstalled_applied_iff distinct).mpr (.inr ?_)
  refine Classical.byContradiction fun none => keeps ⟨there, fun build old => ?_⟩
  exact Classical.byContradiction fun stays => none ⟨build, old, stays⟩

variable (resolved : Resolved database goal transaction)

include resolved

theorem hasInstalled_applied_of_loses (loses : database.Loses transaction name) :
    (database.applied transaction).hasInstalled name = false := by
  obtain ⟨build, member, sameName⟩ := hasInstalled_iff.mp loses.1
  have removed := loses.2 build (mem_installedNamed.mpr ⟨member, sameName⟩)
  refine database.hasInstalled_applied_of_removed resolved.distinct ?_ loses.2
  refine hasName_eq_false_iff.mpr fun added addedMember addedName => ?_
  exact resolved.name_ne addedMember removed (addedName.trans sameName.symm)

/-- What stays does not lose what it requires, because it would go along. -/
theorem not_loses_of_stays {build : Build} (member : build ∈ database.installed)
    (stays : build ∉ transaction.removals) (requires : database.Requires build.name name) :
    ¬ database.Loses transaction name := by
  rintro ⟨there, goes⟩
  obtain ⟨required, requiredMember, sameName⟩ := hasInstalled_iff.mp there
  have removed := goes required (mem_installedNamed.mpr ⟨requiredMember, sameName⟩)
  have falls := (resolved.removes required).mp removed
  exact stays ((resolved.removes build).mpr
    (.dependent falls member (by rw [sameName]; exact requires)))

theorem isConsistent_applied_iff (supplied : database.Supplied transaction.installs)
    (consistent : database.IsConsistent) :
    (database.applied transaction).IsConsistent ↔
      ∀ build ∈ transaction.installs, ∀ dependency,
        database.Requires build.name dependency → ¬ database.Loses transaction dependency := by
  constructor
  · intro after build member dependency requires loses
    have added : build ∈ (database.applied transaction).installed :=
      (mem_applied_iff resolved.distinct).mpr (.inr member)
    have there := after build added dependency requires
    rw [hasInstalled_applied_of_loses resolved loses] at there
    cases there
  · intro keeps build member dependency requires
    rcases (mem_applied_iff resolved.distinct).mp member with ⟨old, stays, -⟩ | added
    · exact hasInstalled_applied_of_not_loses resolved.distinct
        (consistent build old dependency requires)
        (not_loses_of_stays resolved old stays requires)
    · rcases supplied build added dependency requires with there | comes
      · exact hasInstalled_applied_of_not_loses resolved.distinct there
          (keeps build added dependency requires)
      · exact database.hasInstalled_applied_of_install resolved.distinct comes

end Database

/-! ### Resolving and applying on a handle -/

variable {database : Database} {handle : Handle}

theorem applied_of_resolve {journal : List JournalEntry} {transaction : Transaction}
    {resolved applied : Journaled (Database × Handle)}
    (resolves : resolve ⟨(database, handle), journal⟩ = .ok transaction resolved)
    (applies : apply transaction resolved = .ok () applied) :
    database.resolution handle.goal = .ok transaction ∧
      (database.applied transaction).Untouched applied.world.1 := by
  obtain ⟨isOpen, same, sameHandle, resolution⟩ := of_resolve_ok resolves
  obtain ⟨⟨middle, left⟩, written⟩ := resolved
  have stillOpen : left.isClosed = false := by
    rw [show left = handle from sameHandle]
    exact isOpen
  obtain ⟨-, further⟩ := (apply_ensures transaction stillOpen).of_ok applies
  exact ⟨resolution, (same.applied transaction).trans further⟩

theorem resolve_apply_succeed (handle : Handle) (journal : List JournalEntry)
    {transaction : Transaction} (calm : ¬ database.IsArmed) (isOpen : handle.isClosed = false)
    (resolution : database.resolution handle.goal = .ok transaction) :
    ∃ resolved applied, resolve ⟨(database, handle), journal⟩ = .ok transaction resolved ∧
      apply transaction resolved = .ok () applied := by
  obtain ⟨resolved, resolves⟩ := resolve_succeeds handle journal calm isOpen resolution
  obtain ⟨-, same, sameHandle, -⟩ := of_resolve_ok resolves
  obtain ⟨⟨middle, left⟩, written⟩ := resolved
  have stillOpen : left.isClosed = false := by
    rw [show left = handle from sameHandle]
    exact isOpen
  cases applies : apply transaction ⟨(middle, left), written⟩ with
  | ok _ applied => exact ⟨_, applied, resolves, applies⟩
  | error error applied =>
      obtain ⟨-, -, armed⟩ := (apply_ensures transaction stillOpen).of_error applies
      exact (calm ⟨.apply, same.rules .apply armed⟩).elim

/-- A consistent database stays consistent just if no build that comes requires a name of
which all builds go. -/
theorem apply_isConsistent_iff (database : Database) (handle : Handle)
    (journal : List JournalEntry) {transaction : Transaction}
    {resolved applied : Journaled (Database × Handle)} (consistent : database.IsConsistent)
    (resolves : resolve ⟨(database, handle), journal⟩ = .ok transaction resolved)
    (applies : apply transaction resolved = .ok () applied) :
    applied.world.1.IsConsistent ↔
      ∀ build ∈ transaction.installs, ∀ dependency,
        database.Requires build.name dependency → ¬ database.Loses transaction dependency := by
  obtain ⟨resolution, leaves⟩ := applied_of_resolve resolves applies
  rw [leaves.isConsistent]
  exact Database.isConsistent_applied_iff (Database.resolution_resolved resolution)
    (Database.resolution_supplied resolution) consistent

def gitToCurl : Database where
  installed := [⟨"libcurl", "7.88-1", "x86_64"⟩, ⟨"git", "2.43-1", "x86_64"⟩]
  available := [⟨"libcurl", "8.5-1", "x86_64"⟩, ⟨"curl", "8.5-1", "x86_64"⟩,
    ⟨"zlib", "1.3-1", "x86_64"⟩]
  requires := [("git", "libcurl"), ("curl", "libcurl"), ("curl", "zlib"), ("zlib", "curl")]

theorem gitToCurl_isConsistent :
    ∃ transaction resolved applied,
      resolve ⟨(gitToCurl,
          { goal := [⟨.install, "curl"⟩, ⟨.upgrade, "libcurl"⟩, ⟨.remove, "git"⟩] }), []⟩ =
          .ok transaction resolved ∧
        apply transaction resolved = .ok () applied ∧ applied.world.1.IsConsistent := by
  have resolution : gitToCurl.resolution
      [⟨.install, "curl"⟩, ⟨.upgrade, "libcurl"⟩, ⟨.remove, "git"⟩] =
        .ok ⟨[⟨"curl", "8.5-1", "x86_64"⟩, ⟨"zlib", "1.3-1", "x86_64"⟩,
          ⟨"libcurl", "8.5-1", "x86_64"⟩], [⟨"git", "2.43-1", "x86_64"⟩]⟩ := by
    cbv
  obtain ⟨resolved, applied, resolves, applies⟩ := resolve_apply_succeed
    { goal := [⟨.install, "curl"⟩, ⟨.upgrade, "libcurl"⟩, ⟨.remove, "git"⟩] } []
    (Database.calm_of_no_rules rfl) rfl resolution
  refine ⟨_, resolved, applied, resolves, applies, ?_⟩
  refine (apply_isConsistent_iff gitToCurl _ [] (by decide) resolves applies).mpr ?_
  unfold Database.Requires
  decide

def libcurlAlone : Database where
  installed := [⟨"libcurl", "8.5-1", "x86_64"⟩]
  available := [⟨"libcurl", "8.5-1", "x86_64"⟩, ⟨"curl", "8.5-1", "x86_64"⟩]
  requires := [("curl", "libcurl")]

/-- Installing the package and removing the library in one goal leaves the package without
the library. -/
theorem apply_not_isConsistent :
    ¬ ∀ (database : Database) (handle : Handle) (journal : List JournalEntry)
      (transaction : Transaction) (resolved applied : Journaled (Database × Handle)),
      database.IsConsistent →
        resolve ⟨(database, handle), journal⟩ = .ok transaction resolved →
          apply transaction resolved = .ok () applied → applied.world.1.IsConsistent := by
  intro always
  have resolution : libcurlAlone.resolution [⟨.install, "curl"⟩, ⟨.remove, "libcurl"⟩] =
      .ok ⟨[⟨"curl", "8.5-1", "x86_64"⟩], [⟨"libcurl", "8.5-1", "x86_64"⟩]⟩ := by
    cbv
  obtain ⟨resolved, applied, resolves, applies⟩ := resolve_apply_succeed
    { goal := [⟨.install, "curl"⟩, ⟨.remove, "libcurl"⟩] } []
    (Database.calm_of_no_rules rfl) rfl resolution
  have consistent := always libcurlAlone _ [] _ resolved applied (by decide) resolves applies
  rw [(applied_of_resolve resolves applies).2.isConsistent] at consistent
  revert consistent
  decide

end PackageProvider.Memory
