import PackageProvider.Proofs.Memory.Converging
import PackageProvider.Proofs.Memory.Planned
import PackageProvider.Proofs.Memory.Requests
import PackageProvider.Proofs.Spelling

set_option autoImplicit false

/-! What becomes of a package that is wanted at a version. It is installed at that version if it
is not there, and raised to it if that is higher than what is there. A package is never taken
back to the version: where it stands higher the run succeeds and leaves everything as it is. -/

namespace PackageProvider.Memory

namespace Database

variable {database : Database} {name version : String} {directive : Directive}
  {transaction : Transaction} {build best : Build}

def HasAt (database : Database) (name version : String) : Prop :=
  ∃ build ∈ database.installedNamed name, version ∈ build.versions

instance (database : Database) (name version : String) :
    Decidable (database.HasAt name version) :=
  inferInstanceAs (Decidable (∃ build ∈ database.installedNamed name, version ∈ build.versions))

/-- Whether a build of the name is on offer at the version that exceeds all that is installed of
the name. -/
def OffersHigher (database : Database) (name version : String) : Prop :=
  ∃ build ∈ database.available, build.name = name ∧ version ∈ build.versions ∧
    ∀ old ∈ database.installedNamed name, build.Exceeds old

/-- Whether the name and the version together lead to the package of that name: what they name
of other packages has to be older than what they name of this one, and they are about this one
if it is there. -/
structure Pinpoints (database : Database) (name version : String) : Prop where
  outdone : ∀ build ∈ database.available, build.isNamedBy (name ++ "-" ++ version) = true →
    build.name = name ∨
      ∃ newer ∈ database.available, newer.name = name ∧ version ∈ newer.versions ∧
        newer.Exceeds build
  about : database.hasInstalled name = true →
    ∀ other ∈ database.specName? (name ++ "-" ++ version), other = name

theorem Untouched.hasAt {before after : Database} (same : before.Untouched after) :
    after.HasAt name version ↔ before.HasAt name version := by
  simp only [HasAt, same.installedNamed]

theorem pinpoints_of_plain
    (plain : ∀ build ∈ database.available ++ database.installed,
      build.isNamedBy (name ++ "-" ++ version) = true → build.name = name) :
    database.Pinpoints name version where
  outdone := fun build offered named => .inl (plain build (List.mem_append_left _ offered) named)
  about := by
    rintro - other about
    obtain ⟨build, known, named, sameName⟩ := specName?_eq_some about
    exact sameName ▸ plain build known named

theorem Pinpoints.name_of_highest (pinpoints : database.Pinpoints name version)
    (offered : best ∈ database.available)
    (named : best.isNamedBy (name ++ "-" ++ version) = true)
    (highest : ∀ other ∈ database.available,
      other.isNamedBy (name ++ "-" ++ version) = true → ¬ other.Exceeds best) :
    best.name = name := by
  refine (pinpoints.outdone best offered named).resolve_right ?_
  rintro ⟨newer, newerOffered, newerName, stands, exceeds⟩
  have newerNamed := (Build.isNamedBy_dashed_iff newerName).mpr stands
  exact highest newer newerOffered newerNamed exceeds

/-! ### The one directive that is planned -/

def pin (database : Database) (name version : String) : Directive :=
  ⟨if database.hasInstalled name then .upgrade else .install, name ++ "-" ++ version⟩

theorem goal_version (database : Database) (name version : String) :
    database.goal [⟨name, .version version⟩] = [database.pin name version] := by
  have absent := database.isAbsent_stateOf name
  cases there : database.hasInstalled name with
  | true =>
      rw [there, Bool.not_true] at absent
      simp only [goal, planned, List.filterMap_cons, Plan.intent?, absent, List.filterMap_nil,
        List.map_cons, List.map_nil, Intent.directive, pin, there, if_true]
  | false =>
      rw [there, Bool.not_false] at absent
      simp only [goal, planned, List.filterMap_cons, Plan.intent?, absent, List.filterMap_nil,
        List.map_cons, List.map_nil, Intent.directive, pin, there, Bool.false_eq_true, if_false]

theorem select_of_resolution_single (resolves : database.resolution [directive] = .ok transaction) :
    ∃ selection, database.select directive = .ok selection ∧
      database.extend {} selection = .ok transaction := by
  obtain ⟨before, -, nothing, takes⟩ := resolution_split [] [directive] resolves
  cases nothing
  rw [gathered_cons, bind_eq_ok_iff] at takes
  obtain ⟨extended, taken, same⟩ := takes
  cases same
  exact bind_eq_ok_iff.mp taken

theorem Pinpoints.select_cases (pinpoints : database.Pinpoints name version)
    {selection : Selection}
    (selected : database.select (database.pin name version) = .ok selection) :
    (∃ best ∈ database.available, selection = .install best ∧ best.name = name ∧
        version ∈ best.versions ∧ ∀ old ∈ database.installedNamed name, best.Exceeds old) ∨
      ∃ remark, selection = .nothing remark ∧ database.hasInstalled name = true ∧
        ¬ database.OffersHigher name version := by
  cases there : database.hasInstalled name with
  | false =>
      have asks : database.pin name version = ⟨.install, name ++ "-" ++ version⟩ := by
        rw [pin, there, if_neg Bool.false_ne_true]
      rw [asks] at selected
      obtain ⟨best, found, chosen⟩ := selectInstall_cases selected
      obtain ⟨offered, named⟩ := mem_of_newestAvailable? found
      have bestName := pinpoints.name_of_highest offered named
        fun other => not_exceeds_newestAvailable? found
      rcases chosen with same | ⟨-, build, known, -⟩
      · have stands := (Build.isNamedBy_dashed_iff bestName).mp named
        refine .inl ⟨best, offered, same, bestName, stands, fun old known => ?_⟩
        exact (not_mem_installedNamed there known).elim
      · rw [bestName] at known
        exact (not_mem_installedNamed there known).elim
  | true =>
      have asks : database.pin name version = ⟨.upgrade, name ++ "-" ++ version⟩ := by
        rw [pin, there, if_pos rfl]
      rw [asks] at selected
      obtain ⟨other, current, about, newest, chosen⟩ := selectUpgrade_cases selected
      have sameName := pinpoints.about there other about
      subst sameName
      rcases chosen with ⟨best, same, named, offered, exceeds, highest⟩ | ⟨same, none⟩
      · have bestName := pinpoints.name_of_highest offered named highest
        have stands := (Build.isNamedBy_dashed_iff bestName).mp named
        refine .inl ⟨best, offered, same, bestName, stands, fun old known => ?_⟩
        exact exceeds.of_not_exceeds (Build.not_exceeds_newest? newest known)
      · refine .inr ⟨_, same, rfl, ?_⟩
        rintro ⟨build, offered, buildName, stands, exceeds⟩
        have named := (Build.isNamedBy_dashed_iff buildName).mpr stands
        exact none build offered named (exceeds current (Build.mem_of_newest? newest))

/-! ### After the transaction -/

theorem version_of_installs
    (resolved : Resolved database [database.pin name version] transaction)
    (there : database.hasInstalled name = true) (member : build ∈ transaction.installs)
    (sameName : build.name = name) : version ∈ build.versions := by
  cases resolved.brought build member with
  | root _ chosen =>
      obtain ⟨directive, single, selected⟩ := chosen
      rw [List.mem_singleton.mp single] at selected
      exact (Build.isNamedBy_dashed_iff sameName).mp (best_of_select selected).2.1
  | required _ _ missing =>
      -- A requirement is brought in only where its name is missing.
      rw [sameName, there] at missing
      cases missing

theorem removals_of_pin (resolved : Resolved database [database.pin name version] transaction) :
    transaction.removals = [] := by
  refine List.eq_nil_iff_forall_not_mem.mpr fun build member => ?_
  obtain ⟨victim, ⟨directive, single, victims, selected, -⟩, -⟩ :=
    ((resolved.removes build).mp member).reaches
  rw [List.mem_singleton.mp single] at selected
  have verb := verb_of_select_remove selected
  unfold pin at verb
  cases there : database.hasInstalled name with
  | false =>
      rw [there] at verb
      cases verb
  | true =>
      rw [there] at verb
      cases verb

theorem hasAt_applied_of_hasAt
    (resolved : Resolved database [database.pin name version] transaction)
    (before : database.HasAt name version) :
    (database.applied transaction).HasAt name version := by
  obtain ⟨build, known, stands⟩ := before
  obtain ⟨member, sameName⟩ := mem_installedNamed.mp known
  by_cases replaced : ∃ added ∈ transaction.installs, sharesPlace build added = true
  · -- The build that takes the place was asked for, so the version stands for it as well.
    obtain ⟨added, comes, shares⟩ := replaced
    have addedName : added.name = name := by
      have same := beq_iff_eq.mp ((Bool.and_eq_true _ _).mp shares).1
      exact same.symm.trans sameName
    refine ⟨added, mem_installedNamed.mpr ⟨?_, addedName⟩, ?_⟩
    · exact (mem_applied_iff resolved.distinct).mpr (.inr comes)
    · exact version_of_installs resolved (hasInstalled_of_mem known) comes addedName
  · refine ⟨build, mem_installedNamed.mpr ⟨?_, sameName⟩, stands⟩
    refine (mem_applied_iff resolved.distinct).mpr (.inl ⟨member, ?_, fun added comes => ?_⟩)
    · rw [removals_of_pin resolved]
      exact List.not_mem_nil
    · exact Bool.eq_false_iff.mpr fun shares => replaced ⟨added, comes, shares⟩

end Database

/-- When a run for a package that is wanted at a version succeeds, a version that the package
was at is not lost. Where name and version lead to that package, it is at the version just if it
was not there, was at it already, or a higher build at it is on offer; else nothing is changed.
They do lead there if no known build of another package is spelled so. -/
theorem converge_version (database : Database) (journal : List JournalEntry)
    (name version : String) (retry : RetryPolicy) {changes : List Change}
    {after : Journaled Database}
    (run : engine.converge [⟨name, .version version⟩] { noop := false, retry }
      ⟨database, journal⟩ = .ok changes after) :
    (database.HasAt name version → after.world.HasAt name version) ∧
    (database.Pinpoints name version →
      (after.world.HasAt name version ↔
        database.hasInstalled name = false ∨ database.HasAt name version ∨
          database.OffersHigher name version) ∧
      (¬ after.world.HasAt name version →
        changes = [] ∧ after.world.installed = database.installed)) ∧
    ((∀ build ∈ database.available ++ database.installed,
        build.isNamedBy (name ++ "-" ++ version) = true → build.name = name) →
      database.Pinpoints name version) := by
  have ended := Act.Ensures.of_ok
    (converge_ensures [⟨name, .version version⟩] { noop := false, retry }) run
  cases ended with
  | @done transaction _ _ resolves leaves =>
      have leaves : (database.applied transaction).Untouched after.world := leaves
      rw [database.goal_version] at resolves
      have resolved := Database.resolution_resolved resolves
      rw [leaves.hasAt, leaves.installed]
      refine ⟨Database.hasAt_applied_of_hasAt resolved, fun pinpoints => ?_,
        Database.pinpoints_of_plain⟩
      obtain ⟨selection, selected, extension⟩ := Database.select_of_resolution_single resolves
      rcases pinpoints.select_cases selected with
        ⟨best, offered, same, bestName, stands, exceeds⟩ | ⟨remark, same, there, none⟩
      · subst same
        have comes := Database.mem_extend_install rfl extension
        have reached : (database.applied transaction).HasAt name version :=
          ⟨best, Database.mem_installedNamed.mpr
            ⟨(Database.mem_applied_iff resolved.distinct).mpr (.inr comes), bestName⟩, stands⟩
        have higher : database.OffersHigher name version :=
          ⟨best, offered, bestName, stands, exceeds⟩
        exact ⟨iff_of_true reached (.inr (.inr higher)), fun lost => (lost reached).elim⟩
      · subst same
        cases extension
        have unchanged : database.applied {} = database := rfl
        rw [unchanged, there]
        refine ⟨⟨fun before => .inr (.inl before), ?_⟩, fun _ => ⟨rfl, rfl⟩⟩
        rintro (missing | before | higher)
        · cases missing
        · exact before
        · exact (none higher).elim

def gitUpdates : Database where
  installed := [⟨"git", "1-4", "x86_64"⟩]
  available := [⟨"git", "2-3", "x86_64"⟩, ⟨"git-2", "1.0-1", "x86_64"⟩]

theorem gitUpdates_reaches_version :
    ∃ changes after,
      engine.converge [⟨"git", .version "2"⟩] { noop := false, retry := .once }
          ⟨gitUpdates, []⟩ = .ok changes after ∧
        ¬ gitUpdates.HasAt "git" "2" ∧ after.world.HasAt "git" "2" := by
  have calm : ¬ gitUpdates.IsArmed := Database.calm_of_no_rules rfl
  have resolves : gitUpdates.resolution (gitUpdates.goal [⟨"git", .version "2"⟩]) =
      .ok ⟨[⟨"git", "2-3", "x86_64"⟩], []⟩ := by
    cbv
  obtain ⟨after, run, -⟩ := converge_resolved [] { noop := false, retry := .once } calm
    (by decide) resolves
  have pinpoints : gitUpdates.Pinpoints "git" "2" := ⟨by decide +kernel, by decide⟩
  have reaches := ((converge_version gitUpdates [] "git" "2" .once run).2.1 pinpoints).1
  refine ⟨_, after, run, by decide, reaches.mpr (.inr (.inr ?_))⟩
  unfold Database.OffersHigher
  decide +kernel

/-- Where a higher build is installed the version is not reached, though the run succeeds. -/
theorem converge_version_not_reached :
    ¬ ∀ (database : Database) (journal : List JournalEntry) (name version : String)
      (retry : RetryPolicy) (changes : List Change) (after : Journaled Database),
      ¬ database.IsArmed → Ensure.ofString? version = some (.version version) →
        engine.converge [⟨name, .version version⟩] { noop := false, retry }
            ⟨database, journal⟩ = .ok changes after →
          after.world.HasAt name version := by
  intro always
  let ahead : Database := {
    installed := [⟨"curl", "2-1", "x86_64"⟩]
    available := [⟨"curl", "1-1", "x86_64"⟩] }
  have calm : ¬ ahead.IsArmed := Database.calm_of_no_rules rfl
  have resolves : ahead.resolution (ahead.goal [⟨"curl", .version "1"⟩]) = .ok {} := by
    cbv
  obtain ⟨after, run, leaves⟩ := converge_resolved [] { noop := false, retry := .once } calm
    (by decide) resolves
  have reached := always ahead [] "curl" "1" .once _ after calm (by decide) run
  rw [leaves.hasAt] at reached
  revert reached
  decide

/-- Nor need it be reached where nothing is installed, if the newest build that name and version
lead to is of another package. -/
theorem converge_version_not_reached_of_ambiguous :
    ¬ ∀ (database : Database) (journal : List JournalEntry) (name version : String)
      (retry : RetryPolicy) (changes : List Change) (after : Journaled Database),
      ¬ database.IsArmed → Ensure.ofString? version = some (.version version) →
        database.installed = [] →
          engine.converge [⟨name, .version version⟩] { noop := false, retry }
              ⟨database, journal⟩ = .ok changes after →
            after.world.HasAt name version := by
  intro always
  let offer : Database := {
    available := [⟨"git-2", "3.0-1", "x86_64"⟩, ⟨"git", "2-1", "x86_64"⟩] }
  have calm : ¬ offer.IsArmed := Database.calm_of_no_rules rfl
  have resolves : offer.resolution (offer.goal [⟨"git", .version "2"⟩]) =
      .ok ⟨[⟨"git-2", "3.0-1", "x86_64"⟩], []⟩ := by
    cbv
  obtain ⟨after, run, leaves⟩ := converge_resolved [] { noop := false, retry := .once } calm
    (by decide) resolves
  have reached := always offer [] "git" "2" .once _ after calm (by decide) rfl run
  rw [leaves.hasAt] at reached
  revert reached
  decide

end PackageProvider.Memory
