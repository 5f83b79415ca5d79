import PackageProvider.Plan
import PackageProvider.Proofs.Act
import PackageProvider.Proofs.Observation

set_option autoImplicit false

/-! The state that a name is in according to some builds, the baseline that has the states
of all requested names, and the refusal of items that cannot be planned. -/

namespace PackageProvider

namespace Plan

/-! ### The build that stands for a name -/

theorem newestNamed?_filter (builds : List Build) (name : String) :
    newestNamed? (builds.filter fun build => build.name == name) name =
      newestNamed? builds name := by
  rw [newestNamed?, List.filter_filter, newestNamed?]
  simp only [Bool.and_self]

theorem foldl_keep_newest (builds : List Build) (start : Build) :
    ∃ best, builds.foldl
        (fun newest build =>
          match newest with
          | none => some build
          | some kept => some (if build.parsedEvr.newer kept.parsedEvr then build else kept))
        (some start) = some best ∧
      (best = start ∨ best ∈ builds) ∧
      ∀ build, build = start ∨ build ∈ builds → ¬ build.Exceeds best := by
  induction builds generalizing start with
  | nil =>
      refine ⟨start, rfl, .inl rfl, ?_⟩
      intro build member
      rcases member with same | impossible
      · rw [same]
        exact start.not_exceeds_self
      · cases impossible
  | cons next rest ih =>
      rw [List.foldl_cons]
      by_cases newer : next.parsedEvr.newer start.parsedEvr = true
      · obtain ⟨best, folded, origin, highest⟩ := ih next
        refine ⟨best, by simpa only [newer, if_true] using folded, .inr ?_, ?_⟩
        · rcases origin with same | later
          · exact same ▸ List.mem_cons_self
          · exact List.mem_cons_of_mem next later
        · intro build member
          rcases member with same | member
          · rw [same]
            exact Build.not_exceeds_trans (Build.Exceeds.asymm newer) (highest next (.inl rfl))
          · exact highest build (List.mem_cons.mp member)
      · obtain ⟨best, folded, origin, highest⟩ := ih start
        refine ⟨best, by simpa only [newer, Bool.false_eq_true, if_false] using folded, ?_, ?_⟩
        · exact origin.imp_right (List.mem_cons_of_mem next)
        · intro build member
          rcases member with same | member
          · exact highest build (.inl same)
          · rcases List.mem_cons.mp member with same | later
            · rw [same]
              exact Build.not_exceeds_trans newer (highest start (.inl rfl))
            · exact highest build (.inr later)

def stateIn (builds : List Build) (name : String) : PackageState :=
  match newestNamed? builds name with
  | some build => .ofBuild build
  | none => .absent

theorem stateIn_cases (builds : List Build) (name : String) :
    (stateIn builds name = .absent ∧ ∀ build ∈ builds, build.name ≠ name) ∨
      ∃ best ∈ builds, best.name = name ∧ stateIn builds name = .ofBuild best ∧
        ∀ build ∈ builds, build.name = name → ¬ build.Exceeds best := by
  have inFilter (build : Build) :
      build ∈ (builds.filter fun build => build.name == name) ↔
        build ∈ builds ∧ build.name = name := by
    simp
  unfold stateIn newestNamed?
  cases named : builds.filter fun build => build.name == name with
  | nil =>
      refine .inl ⟨rfl, ?_⟩
      intro build member sameName
      have impossible := (inFilter build).mpr ⟨member, sameName⟩
      rw [named] at impossible
      cases impossible
  | cons first rest =>
      obtain ⟨best, folded, origin, highest⟩ := foldl_keep_newest rest first
      have known := (inFilter best).mp (by rw [named]; exact List.mem_cons.mpr origin)
      refine .inr ⟨best, known.1, known.2, ?_, ?_⟩
      · exact congrArg
          (fun newest : Option Build =>
            match newest with
            | some build => PackageState.ofBuild build
            | none => .absent)
          folded
      · intro build member sameName
        have present := (inFilter build).mpr ⟨member, sameName⟩
        rw [named] at present
        exact highest build (List.mem_cons.mp present)

theorem stateIn_filter (builds : List Build) (name : String) :
    stateIn (builds.filter fun build => build.name == name) name = stateIn builds name := by
  rw [stateIn, newestNamed?_filter, stateIn]

theorem stateIn_latestPerArch_cases (builds : List Build) (name : String) :
    (stateIn (latestPerArch builds) name = .absent ∧ ∀ build ∈ builds, build.name ≠ name) ∨
      ∃ best ∈ builds, best.name = name ∧ stateIn (latestPerArch builds) name = .ofBuild best ∧
        ∀ build ∈ builds, build.name = name → ¬ build.Exceeds best := by
  rcases stateIn_cases (latestPerArch builds) name with
    ⟨absent, none⟩ | ⟨best, member, named, state, highest⟩
  · refine .inl ⟨absent, fun build there same => ?_⟩
    obtain ⟨kept, keptMember, keptName⟩ := exists_latestPerArch_iff.mpr ⟨build, there, same⟩
    exact none kept keptMember keptName
  · refine .inr ⟨best, mem_of_mem_latestPerArch member, named, state, fun build there same => ?_⟩
    obtain ⟨kept, keptMember, keptName, low⟩ := latestPerArch_covers there
    exact Build.not_exceeds_trans low (highest kept keptMember (keptName.trans same))

/-! ### The baseline -/

theorem get?_record (baseline : Baseline) (name other : String) (state : PackageState) :
    (baseline.record name state).get? other =
      if other = name then some ((baseline.get? name).getD state) else baseline.get? other := by
  unfold Baseline.record
  cases known : baseline.get? name with
  | some recorded =>
      rw [if_pos (by rfl)]
      split
      · rename_i same
        rw [same, known, Option.getD_some]
      · rfl
  | none =>
      rw [if_neg (by simp), Option.getD_none]
      simp only [Baseline.get?, List.find?_append] at known ⊢
      split
      · rename_i same
        rw [same, Option.map_eq_none_iff.mp known]
        simp
      · rename_i different
        have skipped : ([(name, state)].find? fun pair => pair.1 == other) = none := by
          simpa using fun same : name = other => different same.symm
        rw [skipped, Option.or_none]

theorem get?_foldl_record (state : String → PackageState) (items : List DesiredItem)
    (baseline : Baseline) (name : String) (asked : name ∈ items.map DesiredItem.name) :
    (items.foldl (fun baseline item => baseline.record item.name (state item.name)) baseline).get?
        name = some ((baseline.get? name).getD (state name)) := by
  induction items generalizing baseline with
  | nil => cases asked
  | cons item rest ih =>
      rw [List.foldl_cons]
      by_cases later : name ∈ rest.map DesiredItem.name
      · rw [ih _ later, get?_record]
        split
        · rename_i same
          rw [same, Option.getD_some]
        · rfl
      · have here : name = item.name := (List.mem_cons.mp asked).resolve_right later
        have kept (others : List DesiredItem) (missing : name ∉ others.map DesiredItem.name)
            (start : Baseline) :
            (others.foldl (fun baseline item => baseline.record item.name (state item.name))
              start).get? name = start.get? name := by
          induction others generalizing start with
          | nil => rfl
          | cons other others ihOthers =>
              have apart : name ≠ other.name ∧ name ∉ others.map DesiredItem.name := by
                simpa only [List.map_cons, List.mem_cons, not_or] using missing
              rw [List.foldl_cons, ihOthers apart.2, get?_record, if_neg apart.1]
        rw [kept rest later, get?_record, if_pos here, here]

theorem get_baselineOf (builds : List Build) (items : List DesiredItem) (name : String)
    (asked : name ∈ items.map DesiredItem.name) :
    (baselineOf builds items).get name = stateIn builds name := by
  have recorded := get?_foldl_record (stateIn builds) items {} name asked
  have folds : baselineOf builds items =
      items.foldl (fun baseline item => baseline.record item.name (stateIn builds item.name)) {} :=
    rfl
  rw [Baseline.get, folds, recorded]
  rfl

end Plan

/-- Items are refused together if one of them is to be held, and only then. -/
theorem requireSupported_ensures {World : Type} (items : List DesiredItem) (before : World) :
    (requireSupported items).Ensures before fun result after =>
      after = before ∧
        ((result = .ok () ∧ ∀ item ∈ items, item.ensure ≠ .held) ∨
          (result = .error .notImplemented ∧ ∃ item ∈ items, item.ensure = .held)) := by
  intro journal
  unfold requireSupported
  cases found : items.find? fun item => !item.ensure.isSupported with
  | none =>
      refine ⟨rfl, .inl ⟨rfl, fun item member held => ?_⟩⟩
      exact List.find?_eq_none.mp found item member (by rw [held]; rfl)
  | some item =>
      have unsupported := List.find?_some found
      refine ⟨rfl, .inr ⟨rfl, item, List.mem_of_find?_eq_some found, ?_⟩⟩
      simpa [Ensure.isSupported] using unsupported

theorem requireSupported_apply {World : Type} {items : List DesiredItem}
    (supported : ∀ item ∈ items, item.ensure ≠ .held) (state : Journaled World) :
    requireSupported items state = .ok () state := by
  have none : (items.find? fun item => !item.ensure.isSupported) = none := by
    refine List.find?_eq_none.mpr fun item member => ?_
    simpa [Ensure.isSupported] using supported item member
  rw [requireSupported, none]
  rfl

theorem observe_apply {World Handle : Type} {engine : Engine World Handle} {names : List String}
    {state after : Journaled (World × Handle)} {reported : List Build}
    (answered : engine.installed names state = .ok reported after) :
    engine.observe names state =
      .ok (latestPerArch reported) { after with journal := after.journal ++
        [⟨.debug, "Engine reported " ++ reported.length.repr ++ " installed builds"⟩] } := by
  rw [Engine.observe, Act.bind_apply, answered]
  rfl

/-! ### The plan that is made -/

def DesiredItem.spec (item : DesiredItem) : String :=
  match item.ensure with
  | .version version => item.name ++ "-" ++ version
  | _ => item.name

theorem Plan.spec_of_intent? {item : DesiredItem} {prior : PackageState} {intent : Intent}
    (intends : Plan.intent? item prior = some intent) : intent.spec = item.spec := by
  obtain ⟨name, ensure⟩ := item
  unfold Plan.intent? at intends
  cases ensure <;> cases prior <;>
    simp only [PackageState.isAbsent, Option.some.injEq, reduceCtorEq] at intends <;>
    rw [← intends, DesiredItem.spec]

def Plan.ofReport (reported : List Build) (items : List DesiredItem) : Plan :=
  let baseline := baselineOf (latestPerArch reported) items
  { intents := (intentsOf baseline items).map (·.2), baseline }

theorem observe_ensures_report {World Handle : Type} {engine : Engine World Handle}
    {names : List String} {before : World × Handle}
    {known : Except EngineError (List Build) → World × Handle → Prop}
    (reports : (engine.installed names).Ensures before known) :
    (engine.observe names).Ensures before fun result after =>
      match result with
      | .ok builds => ∃ reported, known (.ok reported) after ∧ builds = latestPerArch reported
      | .error cause => known (.error cause) after :=
  reports.andThen (fun reported _ holds => .note_then (.pure ⟨reported, holds, rfl⟩))
    fun _ _ holds => holds

/-- Planning asks for the installed builds of the items once, and what is planned depends on the
answer alone. -/
theorem plan_ensures_report {World Handle : Type} {engine : Engine World Handle}
    {items : List DesiredItem} (supported : ∀ item ∈ items, item.ensure ≠ .held)
    {before : World × Handle} {known : Except EngineError (List Build) → World × Handle → Prop}
    (reports : (engine.installed (items.map DesiredItem.name)).Ensures before known) :
    (engine.plan items).Ensures before fun result after =>
      match result with
      | .ok plan =>
          ∃ reported, known (.ok reported) after ∧ plan = Plan.ofReport reported items
      | .error error => ∃ cause, error = .engine cause ∧ known (.error cause) after := by
  refine .andThen (requireSupported_ensures items before) ?_ ?_
  · intro _ after kept
    rw [kept.1]
    refine .andThen (.mapFailure (observe_ensures_report reports)) ?_
      fun _ _ failed => failed
    rintro builds after ⟨reported, holds, rfl⟩
    exact .forM_note_then _ _ _ (.note_then (.pure ⟨reported, holds, rfl⟩))
  · rintro _ _ ⟨-, ⟨passed, -⟩ | ⟨-, item, member, held⟩⟩
    · cases passed
    · exact (supported item member held).elim

theorem plan_ensures_intents {World Handle : Type} (engine : Engine World Handle)
    (items : List DesiredItem) (before : World × Handle) :
    (engine.plan items).Ensures before fun result _ =>
      ∀ plan, result = .ok plan →
        plan.intents = (Plan.intentsOf plan.baseline items).map (·.2) := by
  refine .andThen (requireSupported_ensures items before) ?_ fun _ _ _ _ other => nomatch other
  intro _ after _
  have reports : ((engine.observe (items.map DesiredItem.name)).mapFailure
      ConvergeError.engine).Ensures after fun _ _ => True :=
    fun _ => trivial
  refine .andThen reports ?_ fun _ _ _ _ other => nomatch other
  intro builds after _
  refine .forM_note_then _ _ _ (.note_then (.pure fun plan same => ?_))
  cases same
  rfl

theorem mem_intents_iff {World Handle : Type} {engine : Engine World Handle}
    {items : List DesiredItem} {before after : Journaled (World × Handle)} {plan : Plan}
    (planned : engine.plan items before = .ok plan after) (intent : Intent) :
    intent ∈ plan.intents ↔
      ∃ item ∈ items, Plan.intent? item (plan.baseline.get item.name) = some intent := by
  rw [(plan_ensures_intents engine items before.world).of_ok planned plan rfl]
  simp only [Plan.intentsOf, List.map_filterMap, List.mem_filterMap, Option.map_map,
    Function.comp_def, Option.map_id']

end PackageProvider
