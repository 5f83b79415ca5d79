import Mathlib
import PackageProvider.Proofs.Convergence.Changes

set_option autoImplicit false

/-! Converging again. A second run changes nothing just if the first one left each item in
place. That it does when no item that is wanted requires one that is unwanted; otherwise the
requirements of one item can bring in what another one wants to be absent. -/

namespace PackageProvider.Memory

namespace Database

open Relation (ReflTransGen)

variable {database : Database} {items : List DesiredItem} {transaction : Transaction}

/-! ### Goals that ask for nothing -/

theorem resolution_of_nothing {goal : List Directive}
    (quiet : ∀ directive ∈ goal, ∃ remark, database.select directive = .ok (.nothing remark)) :
    database.resolution goal = .ok {} := by
  unfold resolution
  induction goal with
  | nil => rfl
  | cons directive rest ih =>
      obtain ⟨remark, nothing⟩ := quiet directive List.mem_cons_self
      rw [settle, nothing]
      exact ih fun other later => quiet other (List.mem_cons_of_mem directive later)

theorem select_upgrade_nothing {spec name : String} {held : Build}
    (about : database.specName? spec = some name) (there : held ∈ database.installedNamed name)
    (highest : ∀ build ∈ database.available, build.isNamedBy spec = true → ¬ build.Exceeds held) :
    database.select ⟨.upgrade, spec⟩ = .ok (.nothing ("No upgrade available for " ++ spec)) := by
  cases newest : Build.newest? (database.installedNamed name) with
  | none =>
      rw [Build.newest?_eq_none_iff.mp newest] at there
      cases there
  | some current =>
      have low := Build.not_exceeds_newest? newest there
      have none : database.newestAvailable? (fun build => build.isNamedBy spec &&
          build.parsedEvr.newer current.parsedEvr) = none := by
        refine newestAvailable?_eq_none_iff.mpr fun build offered => ?_
        rw [Bool.and_eq_false_iff]
        cases named : build.isNamedBy spec with
        | false => exact .inl rfl
        | true =>
            have high := Build.not_exceeds_trans (highest build offered named) low
            exact .inr (Build.not_exceeds_iff.mp high)
      simp only [select, selectUpgrade, about, newest, none]

/-! ### What the first run leaves -/

/-- Whether a spec on a name names some build, but none that exceeds what is installed of
the name. -/
structure UpToDate (database : Database) (spec name : String) : Prop where
  known : ∃ build ∈ database.available ++ database.installed, build.isNamedBy spec = true
  highest : ∃ held ∈ database.installedNamed name,
    ∀ build ∈ database.available, build.isNamedBy spec = true → ¬ build.Exceeds held

theorem known_of_mem_applied {goal : List Directive} {build : Build}
    (resolved : Resolved database goal transaction)
    (member : build ∈ (database.applied transaction).available ++
      (database.applied transaction).installed) :
    build ∈ database.available ++ database.installed := by
  rcases List.mem_append.mp member with offered | there
  · exact List.mem_append_left _ offered
  · rcases (mem_applied_iff resolved.distinct).mp there with ⟨before, -⟩ | added
    · exact List.mem_append_right _ before
    · exact List.mem_append_left _ (resolved.offered build added)

variable (plain : database.IsPlain items)
  (resolved : Resolved database (database.goal items) transaction)

include plain

theorem select_of_chosen (distinct : (items.map DesiredItem.name).Nodup) {item : DesiredItem}
    {intent : Intent} {build : Build} (member : item ∈ items)
    (intends : Plan.intent? item (database.stateOf item.name) = some intent)
    (chosen : database.Chosen (database.goal items) build) (sameName : build.name = item.name) :
    database.select intent.directive = .ok (.install build) := by
  obtain ⟨other, otherMember, otherIntent, otherIntends, otherName, selected⟩ :=
    item_of_chosen plain chosen
  have same := List.inj_on_of_nodup_map distinct otherMember member (otherName.trans sameName)
  subst same
  rw [intends] at otherIntends
  cases otherIntends
  exact selected

include resolved

theorem installedNamed_applied_of_keeps {name : String}
    (notInstalled : hasName transaction.installs name = false)
    (there : (database.applied transaction).hasInstalled name = true) :
    (database.applied transaction).installedNamed name = database.installedNamed name := by
  cases removes : hasName transaction.removals name with
  | false => exact database.installedNamed_applied resolved.distinct notInstalled removes
  | true =>
      obtain ⟨build, member, sameName⟩ := hasName_iff.mp removes
      subst sameName
      have gone := database.hasInstalled_applied_of_removed resolved.distinct notInstalled
        (removes_together plain resolved member)
      rw [gone] at there
      cases there

theorem upToDate_of_installs (distinct : (items.map DesiredItem.name).Nodup) {item : DesiredItem}
    {intent : Intent} (member : item ∈ items) (wanted : item.ensure ≠ .absent)
    (intends : Plan.intent? item (database.stateOf item.name) = some intent)
    (installs : hasName transaction.installs item.name = true) :
    (database.applied transaction).UpToDate intent.spec item.name := by
  obtain ⟨build, added, sameName⟩ := hasName_iff.mp installs
  have there : build ∈ (database.applied transaction).installedNamed item.name :=
    mem_installedNamed.mpr ⟨(mem_applied_iff resolved.distinct).mpr (.inr added), sameName⟩
  cases resolved.brought build added with
  | root _ chosen =>
      have own := select_of_chosen plain distinct member intends chosen sameName
      obtain ⟨offered, named, highest⟩ := best_of_select own
      exact ⟨⟨build, List.mem_append_left _ offered, named⟩, build, there, highest⟩
  | required _ _ missing newest =>
      rw [sameName] at missing
      have planned := mem_planned member intends
      obtain ⟨selection, selected⟩ := resolved.selects _ (mem_goal_of_planned planned)
      obtain ⟨intentName, ⟨unwanted, -⟩ | ⟨-, -, asks⟩ | ⟨-, present, -⟩⟩ := intent?_cases intends
      · exact (wanted unwanted).elim
      · -- A requirement is met by the newest build of its name, which the spec cannot better.
        rw [asks] at selected
        obtain ⟨best, found, -⟩ := selectInstall_cases selected
        obtain ⟨offered, named⟩ := mem_of_newestAvailable? found
        refine ⟨⟨best, List.mem_append_left _ offered, named⟩, build, there, ?_⟩
        intro other otherOffered otherNamed
        have otherName :=
          plain intent planned other (List.mem_append_left _ otherOffered) otherNamed
        refine not_exceeds_newestAvailable? newest otherOffered ?_
        simp only [otherName, intentName, sameName, beq_self_eq_true]
      · rw [missing] at present
        cases present

theorem upToDate_of_keeps {item : DesiredItem} {intent : Intent} (member : item ∈ items)
    (wanted : item.ensure ≠ .absent)
    (intends : Plan.intent? item (database.stateOf item.name) = some intent)
    (notInstalled : hasName transaction.installs item.name = false)
    (there : (database.applied transaction).hasInstalled item.name = true) :
    (database.applied transaction).UpToDate intent.spec item.name := by
  have keeps := installedNamed_applied_of_keeps plain resolved notInstalled there
  have planned := mem_planned member intends
  have named := plain intent planned
  obtain ⟨selection, selected⟩ := resolved.selects _ (mem_goal_of_planned planned)
  obtain ⟨intentName, ⟨unwanted, -⟩ | ⟨-, missing, -⟩ | ⟨-, -, asks⟩⟩ := intent?_cases intends
  · exact (wanted unwanted).elim
  · rw [hasInstalled_congr keeps, missing] at there
    cases there
  · have asked := selected
    rw [asks] at asked
    obtain ⟨name, current, about, newest, ⟨best, same, -⟩ | ⟨-, highest⟩⟩ :=
      selectUpgrade_cases asked
    · subst same
      obtain ⟨offered, passes, -⟩ := best_of_select selected
      have bestName := named best (List.mem_append_left _ offered) passes
      have taken := resolved.taken best ⟨_, mem_goal_of_planned planned, selected⟩
      rw [bestName, intentName, notInstalled] at taken
      cases taken
    · obtain ⟨found, known, passes, foundName⟩ := specName?_eq_some about
      have sameName : name = item.name := by
        rw [← foundName, named found known passes, intentName]
      subst sameName
      refine ⟨⟨found, ?_, passes⟩, current, ?_, highest⟩
      · rcases List.mem_append.mp known with offered | wasThere
        · exact List.mem_append_left _ offered
        · have still : found ∈ (database.applied transaction).installedNamed item.name := by
            rw [keeps]
            exact mem_installedNamed.mpr ⟨wasThere, foundName⟩
          exact List.mem_append_right _ (mem_installedNamed.mp still).1
      · rw [keeps]
        exact Build.mem_of_newest? newest

theorem upToDate_applied (distinct : (items.map DesiredItem.name).Nodup) {item : DesiredItem}
    {intent : Intent} (member : item ∈ items) (wanted : item.ensure ≠ .absent)
    (intends : Plan.intent? item (database.stateOf item.name) = some intent)
    (there : (database.applied transaction).hasInstalled item.name = true) :
    (database.applied transaction).UpToDate intent.spec item.name := by
  cases installs : hasName transaction.installs item.name with
  | true => exact upToDate_of_installs plain resolved distinct member wanted intends installs
  | false => exact upToDate_of_keeps plain resolved member wanted intends installs there

/-- Where every item is in place after a run, there is nothing left to do. -/
theorem resolution_applied_of_inPlace (distinct : (items.map DesiredItem.name).Nodup)
    (inPlace : ∀ item ∈ items, (database.applied transaction).InPlace item) :
    (database.applied transaction).resolution ((database.applied transaction).goal items) =
      .ok {} := by
  refine resolution_of_nothing fun directive goalMember => ?_
  obtain ⟨item, member, later, -, laterIntends, same⟩ := mem_goal goalMember
  have placed := inPlace item member
  unfold InPlace at placed
  obtain ⟨-, ⟨unwanted, there, -⟩ | ⟨wanted, missing, -⟩ | ⟨wanted, there, asks⟩⟩ :=
    intent?_cases laterIntends
  · rw [there, unwanted] at placed
    cases placed
  · rw [missing] at placed
    exact (wanted (by simpa using placed.symm)).elim
  · obtain ⟨intent, intends⟩ := intent?_of_upgrade laterIntends (by rw [asks])
      (database.stateOf item.name)
    have upToDate := upToDate_applied plain resolved distinct member wanted intends there
    rw [intent?_spec intends laterIntends] at upToDate
    obtain ⟨⟨known, knownMember, knownNamed⟩, held, heldMember, highest⟩ := upToDate
    obtain ⟨name, about⟩ := specName?_isSome knownMember knownNamed
    obtain ⟨found, foundMember, foundNamed, foundName⟩ := specName?_eq_some about
    have planned := mem_planned member intends
    rw [intent?_spec laterIntends intends] at foundNamed
    have sameName : name = item.name := by
      rw [← foundName, plain intent planned found (known_of_mem_applied resolved foundMember)
        foundNamed, (intent?_cases intends).1]
    rw [same, asks]
    exact ⟨_, select_upgrade_nothing about (sameName ▸ heldMember) highest⟩

theorem inPlace_of_quiet (supported : ∀ item ∈ items, item.ensure ≠ .held)
    (quiet : report transaction (items.map DesiredItem.name) (database.baseline items) = []) :
    ∀ item ∈ items, database.InPlace item := by
  intro item member
  have asked := List.mem_map_of_mem (f := DesiredItem.name) member
  have unreported (change : Change) :
      change ∉ report transaction (items.map DesiredItem.name) (database.baseline items) := by
    rw [quiet]
    exact List.not_mem_nil
  cases there : database.hasInstalled item.name with
  | false =>
      by_cases unwanted : item.ensure = .absent
      · rw [InPlace, there, unwanted]
        rfl
      · have installs := installs_of_missing plain resolved member (supported item member) unwanted
          there
        obtain ⟨build, added, sameName⟩ := hasName_iff.mp installs
        exact (unreported _ (mem_report_iff.mpr
          (.inl ⟨build, added, by rwa [sameName], rfl⟩))).elim
  | true =>
      by_cases unwanted : item.ensure = .absent
      · obtain ⟨build, present, sameName⟩ := hasInstalled_iff.mp there
        have removed := removes_of_unwanted resolved member unwanted build
          (mem_installedNamed.mpr ⟨present, sameName⟩)
        exact (unreported _ (mem_report_iff.mpr
          (.inr ⟨build, removed, by rwa [sameName], rfl⟩))).elim
      · rw [InPlace, there]
        simpa using unwanted

/-- Where nothing wanted requires what is unwanted, the run leaves every item in place. -/
theorem inPlace_applied_of_apart (supported : ∀ item ∈ items, item.ensure ≠ .held)
    (apart : ∀ wanted ∈ items, ∀ unwanted ∈ items, wanted.ensure ≠ .absent →
      unwanted.ensure = .absent →
        ¬ ReflTransGen database.Requires wanted.name unwanted.name) :
    ∀ item ∈ items, (database.applied transaction).InPlace item := by
  intro item member
  by_cases unwanted : item.ensure = .absent
  · have notInstalled : hasName transaction.installs item.name = false := by
      refine hasName_eq_false_iff.mpr fun build added sameName => ?_
      obtain ⟨start, chosen, chain⟩ := (resolved.brought build added).reached
      obtain ⟨⟨other, otherMember, otherName, wanted⟩, -⟩ := exceeds_of_chosen plain chosen
      rw [← otherName, sameName] at chain
      exact apart other otherMember item member wanted unwanted chain
    rw [InPlace, unwanted]
    exact database.hasInstalled_applied_of_removed resolved.distinct notInstalled
      (removes_of_unwanted resolved member unwanted)
  · have wanted : (item.ensure != .absent) = true := by simpa using unwanted
    rw [InPlace, wanted]
    cases installs : hasName transaction.installs item.name with
    | true => exact database.hasInstalled_applied_of_install resolved.distinct installs
    | false =>
        have notRemoved : hasName transaction.removals item.name = false := by
          refine hasName_eq_false_iff.mpr fun build removed sameName => ?_
          obtain ⟨victim, condemned, chain⟩ := ((resolved.removes build).mp removed).reaches
          obtain ⟨other, otherMember, otherName, otherUnwanted, -⟩ :=
            unwanted_of_condemned plain condemned
          rw [← otherName, sameName] at chain
          exact apart item member other otherMember unwanted otherUnwanted chain
        have keeps := database.installedNamed_applied resolved.distinct installs notRemoved
        cases there : database.hasInstalled item.name with
        | false =>
            rw [installs_of_missing plain resolved member (supported item member) unwanted
              there] at installs
            cases installs
        | true =>
            rw [hasInstalled_congr keeps]
            exact there

end Database

/-! ### The second run -/

def IsQuiet (items : List DesiredItem) (retry : RetryPolicy) (state : Journaled Database) :
    Prop :=
  ∃ left, engine.converge items { noop := false, retry } state = .ok [] left ∧
    left.world.installed = state.world.installed

/-- After a run without failures a second one is quiet if the first left every item in
place, which it does where nothing wanted requires what is unwanted; and, where specs are
still plain, it is quiet only then. -/
theorem converge_again_quiet (database : Database) (journal : List JournalEntry)
    (items : List DesiredItem) (retry again : RetryPolicy) (changes : List Change)
    (after : Journaled Database) (calm : ¬ database.IsArmed)
    (distinct : (items.map DesiredItem.name).Nodup) (plain : database.IsPlain items)
    (run : engine.converge items { noop := false, retry } ⟨database, journal⟩ =
      .ok changes after) :
    ((∀ wanted ∈ items, ∀ unwanted ∈ items, wanted.ensure ≠ .absent →
        unwanted.ensure = .absent →
          ¬ Relation.ReflTransGen database.Requires wanted.name unwanted.name) →
      IsQuiet items again after) ∧
    ((∀ item ∈ items, after.world.InPlace item) → IsQuiet items again after) ∧
    (after.world.IsPlain items → IsQuiet items again after →
      ∀ item ∈ items, after.world.InPlace item) := by
  have ended := Act.Ensures.of_ok (converge_ensures items { noop := false, retry }) run
  cases ended with
  | @done transaction _ supported resolves leaves =>
      have resolved := Database.resolution_resolved resolves
      have leaves : (database.applied transaction).Untouched after.world := leaves
      have stillCalm : ¬ after.world.IsArmed := fun armed => calm (leaves.isArmed armed)
      have settles (inPlace : ∀ item ∈ items, after.world.InPlace item) :
          IsQuiet items again after := by
        simp only [leaves.inPlace] at inPlace
        have nothing := Database.resolution_applied_of_inPlace plain resolved distinct inPlace
        rw [← leaves.goal, ← leaves.resolution] at nothing
        obtain ⟨left, runAgain, same⟩ := converge_resolved after.journal
          { noop := false, retry := again } stillCalm supported nothing
        exact ⟨left, runAgain, same.installed⟩
      refine ⟨fun apart => settles ?_, settles, ?_⟩
      · simp only [leaves.inPlace]
        exact Database.inPlace_applied_of_apart plain resolved supported apart
      · rintro plainAfter ⟨left, runAgain, -⟩
        have endedAgain :=
          Act.Ensures.of_ok (converge_ensures items { noop := false, retry := again }) runAgain
        -- The cases of how a run ends match a report, which the empty list is not in form.
        generalize reported : ([] : List Change) = silence at endedAgain
        cases endedAgain with
        | done _ resolvesAgain =>
            exact Database.inPlace_of_quiet plainAfter
              (Database.resolution_resolved resolvesAgain) supported reported.symm

def curlForWget : Database where
  installed := [⟨"wget", "1.21-1", "x86_64"⟩]
  available := [⟨"curl", "8.5-1", "x86_64"⟩, ⟨"libcurl", "8.5-1", "x86_64"⟩,
    ⟨"wget", "1.21-1", "x86_64"⟩]
  requires := [("curl", "libcurl")]

theorem curlForWget_leads {name : String}
    (leads : Relation.ReflTransGen curlForWget.Requires "curl" name) :
    name = "curl" ∨ name = "libcurl" := by
  induction leads with
  | refl => exact .inl rfl
  | tail _ requires ih =>
      rcases ih with rfl | rfl
      · exact .inr (List.mem_singleton.mp requires)
      · cases requires

theorem curlForWget_quiet :
    let items : List DesiredItem := [⟨"curl", .present⟩, ⟨"wget", .absent⟩]
    ∃ changes after,
      engine.converge items { noop := false, retry := .standard } ⟨curlForWget, []⟩ =
          .ok changes after ∧
        IsQuiet items .once after := by
  intro items
  have calm : ¬ curlForWget.IsArmed := Database.calm_of_no_rules rfl
  have plain : curlForWget.IsPlain items := by
    unfold Database.IsPlain
    decide
  have resolves : curlForWget.resolution (curlForWget.goal items) =
      .ok ⟨[⟨"curl", "8.5-1", "x86_64"⟩, ⟨"libcurl", "8.5-1", "x86_64"⟩],
        [⟨"wget", "1.21-1", "x86_64"⟩]⟩ := by
    cbv
  obtain ⟨after, run, -⟩ := converge_resolved [] { noop := false, retry := .standard } calm
    (by decide) resolves
  refine ⟨_, after, run, (converge_again_quiet curlForWget [] items .standard .once _ after calm
    (by decide) plain run).1 ?_⟩
  intro wanted member unwanted also isWanted isUnwanted leads
  simp only [items, List.mem_cons, List.not_mem_nil, or_false] at member also
  rcases member with rfl | rfl
  · rcases also with rfl | rfl
    · cases isUnwanted
    · rcases curlForWget_leads leads with same | same
      all_goals exact absurd same (by decide)
  · exact isWanted rfl

theorem not_quiet_of_resolutions {database : Database} {items : List DesiredItem}
    {first second : Transaction} (retry : RetryPolicy) (calm : ¬ database.IsArmed)
    (supported : ∀ item ∈ items, item.ensure ≠ .held)
    (resolves : database.resolution (database.goal items) = .ok first)
    (resolvesAgain : (database.applied first).resolution ((database.applied first).goal items) =
      .ok second)
    (reports : ∀ baseline, report second (items.map DesiredItem.name) baseline ≠ []) :
    ∃ changes after,
      engine.converge items { noop := false, retry } ⟨database, []⟩ = .ok changes after ∧
        ¬ IsQuiet items retry after := by
  obtain ⟨after, run, leaves⟩ := converge_resolved [] { noop := false, retry } calm supported
    resolves
  have leaves : (database.applied first).Untouched after.world := leaves
  rw [← leaves.goal, ← leaves.resolution] at resolvesAgain
  obtain ⟨left, runAgain, -⟩ := converge_resolved after.journal { noop := false, retry }
    (fun armed => calm (leaves.isArmed armed)) supported resolvesAgain
  refine ⟨_, after, run, ?_⟩
  rintro ⟨other, quiet, -⟩
  rw [runAgain] at quiet
  injection quiet with silent
  exact reports _ silent

def curlOffer : Database where
  available := [⟨"curl", "8.5-1", "x86_64"⟩, ⟨"libcurl", "8.5-1", "x86_64"⟩]
  requires := [("curl", "libcurl")]

/-- Wanting the package but not the library that it requires is never settled: the first
run installs both and the second removes both. -/
theorem converge_again_not_quiet :
    ¬ ∀ (database : Database) (journal : List JournalEntry) (items : List DesiredItem)
      (retry : RetryPolicy) (changes : List Change) (after : Journaled Database),
      ¬ database.IsArmed → (items.map DesiredItem.name).Nodup →
        engine.converge items { noop := false, retry } ⟨database, journal⟩ = .ok changes after →
          IsQuiet items retry after := by
  intro always
  let items : List DesiredItem := [⟨"curl", .present⟩, ⟨"libcurl", .absent⟩]
  have calm : ¬ curlOffer.IsArmed := Database.calm_of_no_rules rfl
  have resolves : curlOffer.resolution (curlOffer.goal items) =
      .ok ⟨curlOffer.available, []⟩ := by
    cbv
  have resolvesAgain : (curlOffer.applied ⟨curlOffer.available, []⟩).resolution
      ((curlOffer.applied ⟨curlOffer.available, []⟩).goal items) =
        .ok ⟨[], curlOffer.available.reverse⟩ := by
    cbv
  obtain ⟨changes, after, run, loud⟩ := not_quiet_of_resolutions .once calm
    (by decide) resolves resolvesAgain fun _ => List.cons_ne_nil _ _
  exact loud (always curlOffer [] items .once changes after calm (by decide) run)

def gitVersions : Database where
  installed := [⟨"git-2", "3.0-1", "x86_64"⟩, ⟨"git", "2-1", "x86_64"⟩]
  available := [⟨"git-2", "3.0-1", "x86_64"⟩, ⟨"git", "2-1", "x86_64"⟩]

/-- Without plain specs not even the lack of requirements settles the items: removing one
package removes the other one as well, which the second run brings back. -/
theorem converge_again_not_quiet_of_ambiguous :
    ¬ ∀ (database : Database) (journal : List JournalEntry) (items : List DesiredItem)
      (retry : RetryPolicy) (changes : List Change) (after : Journaled Database),
      ¬ database.IsArmed → (items.map DesiredItem.name).Nodup → database.requires = [] →
        engine.converge items { noop := false, retry } ⟨database, journal⟩ = .ok changes after →
          IsQuiet items retry after := by
  intro always
  let items : List DesiredItem := [⟨"git-2", .absent⟩, ⟨"git", .present⟩]
  have calm : ¬ gitVersions.IsArmed := Database.calm_of_no_rules rfl
  have resolves : gitVersions.resolution (gitVersions.goal items) =
      .ok ⟨[], gitVersions.installed⟩ := by
    cbv
  have resolvesAgain : (gitVersions.applied ⟨[], gitVersions.installed⟩).resolution
      ((gitVersions.applied ⟨[], gitVersions.installed⟩).goal items) =
        .ok ⟨[⟨"git", "2-1", "x86_64"⟩], []⟩ := by
    cbv
  obtain ⟨changes, after, run, loud⟩ := not_quiet_of_resolutions .once calm (by decide) resolves
    resolvesAgain fun _ => List.cons_ne_nil _ _
  exact loud (always gitVersions [] items .once changes after calm (by decide) rfl run)

end PackageProvider.Memory
