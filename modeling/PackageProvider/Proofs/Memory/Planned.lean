import PackageProvider.Proofs.Memory.Applied

set_option autoImplicit false

/-! What planned items make of a database whose builds the planned specs name plainly: what
is installed exceeds what it replaces, and what is removed is removed with its whole name. -/

namespace PackageProvider.Memory.Database

variable {database : Database} {items : List DesiredItem} {transaction : Transaction}
  {build : Build}

/-- What is planned for an item: it is removed if that is wanted and it is there; else it is
installed if it is not there and upgraded if it is. -/
theorem intent?_cases {item : DesiredItem} {intent : Intent}
    (intends : Plan.intent? item (database.stateOf item.name) = some intent) :
    intent.name = item.name ∧
      ((item.ensure = .absent ∧ database.hasInstalled item.name = true ∧
          intent.directive = ⟨.remove, intent.spec⟩ ∧ intent.spec = item.name) ∨
        (item.ensure ≠ .absent ∧ database.hasInstalled item.name = false ∧
          intent.directive = ⟨.install, intent.spec⟩) ∨
        (item.ensure ≠ .absent ∧ database.hasInstalled item.name = true ∧
          intent.directive = ⟨.upgrade, intent.spec⟩)) := by
  obtain ⟨name, ensure⟩ := item
  have absent := database.isAbsent_stateOf name
  unfold Plan.intent? at intends
  cases there : database.hasInstalled name with
  | true =>
      rw [there, Bool.not_true] at absent
      simp only [absent] at intends
      cases ensure <;> cases intends <;> simp [Intent.directive]
  | false =>
      rw [there, Bool.not_false] at absent
      simp only [absent] at intends
      cases ensure <;> cases intends <;> simp [Intent.directive]

theorem mem_goal {directive : Directive} (member : directive ∈ database.goal items) :
    ∃ item ∈ items, ∃ intent ∈ database.planned items,
      Plan.intent? item (database.stateOf item.name) = some intent ∧
        directive = intent.directive := by
  obtain ⟨intent, planned, same⟩ := List.mem_map.mp member
  obtain ⟨item, itemMember, intends⟩ := List.mem_filterMap.mp planned
  exact ⟨item, itemMember, intent, planned, intends, same.symm⟩

theorem intent?_spec {item : DesiredItem} {first second : PackageState} {intent other : Intent}
    (intends : Plan.intent? item first = some intent)
    (otherIntends : Plan.intent? item second = some other) : intent.spec = other.spec :=
  (Plan.spec_of_intent? intends).trans (Plan.spec_of_intent? otherIntends).symm

theorem intent?_of_upgrade {item : DesiredItem} {state : PackageState} {intent : Intent}
    (intends : Plan.intent? item state = some intent) (upgrades : intent.directive.verb = .upgrade)
    (other : PackageState) : ∃ intent, Plan.intent? item other = some intent := by
  obtain ⟨name, ensure⟩ := item
  unfold Plan.intent? at intends
  cases ensure <;> cases state <;>
    simp only [PackageState.isAbsent, Option.some.injEq, reduceCtorEq] at intends <;>
    subst intends <;> simp only [Intent.directive, reduceCtorEq] at upgrades <;>
    cases other <;> exact ⟨_, rfl⟩

theorem intent?_of_not_inPlace {item : DesiredItem} (supported : item.ensure ≠ .held)
    (misplaced : ¬ database.InPlace item) :
    ∃ intent, Plan.intent? item (database.stateOf item.name) = some intent := by
  obtain ⟨name, ensure⟩ := item
  have absent := database.isAbsent_stateOf name
  unfold InPlace at misplaced
  unfold Plan.intent?
  cases there : database.hasInstalled name with
  | true =>
      rw [there, Bool.not_true] at absent
      rw [there] at misplaced
      cases ensure <;> simp_all
  | false =>
      rw [there, Bool.not_false] at absent
      rw [there] at misplaced
      cases ensure <;> simp_all

theorem mem_planned {item : DesiredItem} {intent : Intent} (member : item ∈ items)
    (intends : Plan.intent? item (database.stateOf item.name) = some intent) :
    intent ∈ database.planned items :=
  List.mem_filterMap.mpr ⟨item, member, intends⟩

theorem mem_goal_of_planned {intent : Intent} (planned : intent ∈ database.planned items) :
    intent.directive ∈ database.goal items :=
  List.mem_map_of_mem planned

variable (plain : database.IsPlain items)

include plain

theorem item_of_chosen (chosen : database.Chosen (database.goal items) build) :
    ∃ item ∈ items, ∃ intent,
      Plan.intent? item (database.stateOf item.name) = some intent ∧ item.name = build.name ∧
        database.select intent.directive = .ok (.install build) := by
  obtain ⟨directive, member, selected⟩ := chosen
  obtain ⟨item, itemMember, intent, planned, intends, same⟩ := mem_goal member
  rw [same] at selected
  obtain ⟨offered, named, -⟩ := best_of_select selected
  have buildName := plain intent planned build (List.mem_append_left _ offered) named
  exact ⟨item, itemMember, intent, intends, ((intent?_cases intends).1 ▸ buildName).symm, selected⟩

/-- What is chosen belongs to an item that is wanted, and exceeds all that is installed of
its name. -/
theorem exceeds_of_chosen (chosen : database.Chosen (database.goal items) build) :
    (∃ item ∈ items, item.name = build.name ∧ item.ensure ≠ .absent) ∧
      ∀ old ∈ database.installedNamed build.name, build.Exceeds old := by
  obtain ⟨item, itemMember, intent, intends, sameName, selected⟩ := item_of_chosen plain chosen
  obtain ⟨intentName, ⟨-, -, removes, -⟩ | ⟨wanted, missing, -⟩ | ⟨wanted, -, upgrades⟩⟩ :=
    intent?_cases intends
  · rw [removes] at selected
    obtain ⟨other, -⟩ := selectRemove_cases selected
    cases other
  · refine ⟨⟨item, itemMember, sameName, wanted⟩, fun old there => ?_⟩
    rw [sameName] at missing
    exact (not_mem_installedNamed missing there).elim
  · rw [upgrades] at selected
    obtain ⟨name, current, about, newest, ⟨best, same, -, -, exceeds, -⟩ | ⟨other, -⟩⟩ :=
      selectUpgrade_cases selected
    · cases same
      obtain ⟨found, known, named, foundName⟩ := specName?_eq_some about
      have planned := mem_planned itemMember intends
      have aboutName : name = build.name := by
        rw [← foundName, plain intent planned found known named, intentName, sameName]
      rw [← aboutName]
      refine ⟨⟨item, itemMember, sameName.trans aboutName.symm, wanted⟩, fun old there => ?_⟩
      exact exceeds.of_not_exceeds (Build.not_exceeds_newest? newest there)
    · cases other

theorem unwanted_of_condemned (condemned : database.Condemned (database.goal items) build) :
    ∃ item ∈ items, item.name = build.name ∧ item.ensure = .absent ∧
      ∀ other ∈ database.installedNamed build.name,
        database.Condemned (database.goal items) other := by
  obtain ⟨directive, member, victims, selected, victim⟩ := condemned
  obtain ⟨item, itemMember, intent, planned, intends, same⟩ := mem_goal member
  have named := plain intent planned
  obtain ⟨intentName, ⟨unwanted, -, removes, specName⟩ | ⟨-, -, installs⟩ | ⟨-, -, upgrades⟩⟩ :=
    intent?_cases intends
  · rw [same, removes] at selected
    obtain ⟨chosen, -⟩ := selectRemove_cases selected
    cases chosen
    obtain ⟨there, passes⟩ := List.mem_filter.mp victim
    have buildName := named build (List.mem_append_right _ there) passes
    refine ⟨item, itemMember, by rw [buildName, intentName], unwanted, fun other known => ?_⟩
    obtain ⟨otherThere, otherName⟩ := mem_installedNamed.mp known
    refine ⟨directive, member, _, by rw [same, removes]; exact selected,
      List.mem_filter.mpr ⟨otherThere, ?_⟩⟩
    have sameName : other.name = intent.spec := by
      rw [otherName, buildName, intentName, specName]
    rw [← sameName]
    exact isNamedBy_name other
  · rw [same, installs] at selected
    cases verb_of_select_remove selected
  · rw [same, upgrades] at selected
    cases verb_of_select_remove selected

variable (resolved : Resolved database (database.goal items) transaction)

include resolved

theorem exceeds_of_installs (member : build ∈ transaction.installs) :
    ∀ old ∈ database.installedNamed build.name, build.Exceeds old := by
  cases resolved.brought build member with
  | root _ chosen => exact (exceeds_of_chosen plain chosen).2
  | required _ _ missing =>
      intro old there
      exact (not_mem_installedNamed missing there).elim

theorem removes_together (member : build ∈ transaction.removals) :
    ∀ other ∈ database.installedNamed build.name, other ∈ transaction.removals := by
  intro other known
  obtain ⟨there, sameName⟩ := mem_installedNamed.mp known
  have falls := (resolved.removes build).mp member
  refine (resolved.removes other).mpr (falls.of_same_name ?_ there sameName)
  intro first second condemned secondThere secondName
  obtain ⟨-, -, -, -, together⟩ := unwanted_of_condemned plain condemned
  exact together second (mem_installedNamed.mpr ⟨secondThere, secondName⟩)

omit plain

theorem removes_of_unwanted {item : DesiredItem} (member : item ∈ items)
    (unwanted : item.ensure = .absent) :
    ∀ build ∈ database.installedNamed item.name, build ∈ transaction.removals := by
  intro build known
  obtain ⟨there, sameName⟩ := mem_installedNamed.mp known
  have present := hasInstalled_of_mem known
  have misplaced : ¬ database.InPlace item := by
    rw [InPlace, present, unwanted]
    decide
  obtain ⟨intent, intends⟩ := intent?_of_not_inPlace (by rw [unwanted]; decide) misplaced
  have planned := mem_goal_of_planned (mem_planned member intends)
  obtain ⟨selection, selected⟩ := resolved.selects _ planned
  obtain ⟨-, ⟨-, -, asks, specName⟩ | ⟨wanted, -⟩ | ⟨wanted, -⟩⟩ := intent?_cases intends
  · rw [asks] at selected planned
    obtain ⟨chosen, -⟩ := selectRemove_cases selected
    subst chosen
    refine (resolved.removes build).mpr (.seed there ⟨_, planned, _, selected, ?_⟩)
    rw [specName, ← sameName]
    exact List.mem_filter.mpr ⟨there, isNamedBy_name build⟩
  · exact (wanted unwanted).elim
  · exact (wanted unwanted).elim

include plain

theorem installs_of_missing {item : DesiredItem} (member : item ∈ items)
    (supported : item.ensure ≠ .held) (wanted : item.ensure ≠ .absent)
    (missing : database.hasInstalled item.name = false) :
    hasName transaction.installs item.name = true := by
  have misplaced : ¬ database.InPlace item := by
    rw [InPlace, missing]
    simpa using wanted
  obtain ⟨intent, intends⟩ := intent?_of_not_inPlace supported misplaced
  have planned := mem_planned member intends
  obtain ⟨selection, selected⟩ := resolved.selects _ (mem_goal_of_planned planned)
  obtain ⟨intentName, ⟨unwanted, -⟩ | ⟨-, -, asks⟩ | ⟨-, there, -⟩⟩ := intent?_cases intends
  · exact (wanted unwanted).elim
  · have asked := selected
    rw [asks] at asked
    obtain ⟨best, found, chosen⟩ := selectInstall_cases asked
    obtain ⟨offered, passes⟩ := mem_of_newestAvailable? found
    have bestName := plain intent planned best (List.mem_append_left _ offered) passes
    rcases chosen with chosen | ⟨-, build, known, -⟩
    · subst chosen
      have taken := resolved.taken best ⟨_, mem_goal_of_planned planned, selected⟩
      rwa [bestName, intentName] at taken
    · rw [bestName, intentName] at known
      exact (not_mem_installedNamed missing known).elim
  · rw [missing] at there
    cases there

end PackageProvider.Memory.Database
