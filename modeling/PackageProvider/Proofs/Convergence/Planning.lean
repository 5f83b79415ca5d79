import Mathlib.Data.List.Forall2
import PackageProvider.Memory.Engine
import PackageProvider.Proofs.Plan
import PackageProvider.Proofs.Recorded

set_option autoImplicit false

/-! What a plan says about the builds that the engine reports: one query is made, the states are
those of the newest builds, the intents follow from them item by item, and the order in which
the builds are reported hardly matters. -/

namespace PackageProvider

/-- What is needed for an item, by whether its package is installed: the kind of the intent and
its spec. -/
inductive DesiredItem.Needs : DesiredItem → Bool → IntentKind → String → Prop where
  | installPresent (name : String) : Needs ⟨name, .present⟩ false .install name
  | removeAbsent (name : String) : Needs ⟨name, .absent⟩ true .remove name
  | installLatest (name : String) : Needs ⟨name, .latest⟩ false .install name
  | upgradeLatest (name : String) : Needs ⟨name, .latest⟩ true .upgradeToLatest name
  | installVersion (name version : String) :
      Needs ⟨name, .version version⟩ false .install (name ++ "-" ++ version)
  | upgradeVersion (name version : String) :
      Needs ⟨name, .version version⟩ true (.upgradeToVersion version) (name ++ "-" ++ version)

/-- The state of a name that the reported builds show: that of a build of it which no build of
it exceeds. -/
inductive Observed (reported : List Build) (name : String) : PackageState → Prop where
  | absent (missing : ∀ build ∈ reported, build.name ≠ name) : Observed reported name .absent
  | installed (build : Build) (member : build ∈ reported) (named : build.name = name)
      (highest : ∀ other ∈ reported, other.name = name → ¬ other.Exceeds build) :
      Observed reported name (.installed build.evr)

inductive Plan.Intends (state : String → PackageState) :
    List DesiredItem → List Intent → Prop where
  | nil : Intends state [] []
  | leave {item : DesiredItem} {items : List DesiredItem} {intents : List Intent}
      (unneeded : ∀ kind spec, ¬ item.Needs (!(state item.name).isAbsent) kind spec)
      (others : Intends state items intents) : Intends state (item :: items) intents
  | act {item : DesiredItem} {items : List DesiredItem} {intents : List Intent}
      {kind : IntentKind} {spec : String}
      (needed : item.Needs (!(state item.name).isAbsent) kind spec)
      (others : Intends state items intents) :
      Intends state (item :: items) (⟨item.name, kind, spec, state item.name⟩ :: intents)

structure Plan.IsFaithful (plan : Plan) (reported : List Build) (items : List DesiredItem) :
    Prop where
  baseline : ∀ item ∈ items, Observed reported item.name (plan.baseline.get item.name)
  intents : Plan.Intends plan.baseline.get items plan.intents

/-! ### What is needed -/

theorem DesiredItem.Needs.intent? {item : DesiredItem} {prior : PackageState} {kind : IntentKind}
    {spec : String} (needed : item.Needs (!prior.isAbsent) kind spec) :
    Plan.intent? item prior = some ⟨item.name, kind, spec, prior⟩ := by
  cases prior <;> cases needed <;> rfl

theorem needs_of_intent? {item : DesiredItem} {prior : PackageState} {intent : Intent}
    (intends : Plan.intent? item prior = some intent) :
    item.Needs (!prior.isAbsent) intent.kind intent.spec ∧
      intent = ⟨item.name, intent.kind, intent.spec, prior⟩ := by
  obtain ⟨name, ensure⟩ := item
  cases prior with
  | absent =>
      cases ensure <;> cases intends
      · exact ⟨.installPresent name, rfl⟩
      · exact ⟨.installLatest name, rfl⟩
      · exact ⟨.installVersion name _, rfl⟩
  | installed evr =>
      cases ensure <;> cases intends
      · exact ⟨.removeAbsent name, rfl⟩
      · exact ⟨.upgradeLatest name, rfl⟩
      · exact ⟨.upgradeVersion name _, rfl⟩

theorem Plan.intends_filterMap (state : String → PackageState) (items : List DesiredItem) :
    Plan.Intends state items (items.filterMap fun item => Plan.intent? item (state item.name)) := by
  induction items with
  | nil => exact .nil
  | cons item rest ih =>
      cases intends : Plan.intent? item (state item.name) with
      | none =>
          simp only [List.filterMap_cons, intends]
          refine .leave (fun kind spec needed => ?_) ih
          rw [needed.intent?] at intends
          cases intends
      | some intent =>
          simp only [List.filterMap_cons, intends]
          obtain ⟨needed, made⟩ := needs_of_intent? intends
          rw [made]
          exact .act needed ih

theorem observed_stateIn (reported : List Build) (name : String) :
    Observed reported name (Plan.stateIn (latestPerArch reported) name) := by
  rcases Plan.stateIn_latestPerArch_cases reported name with
    ⟨absent, missing⟩ | ⟨best, member, named, state, highest⟩
  · rw [absent]
    exact .absent missing
  · rw [state]
    exact .installed best member named highest

theorem Plan.isFaithful_ofReport (reported : List Build) (items : List DesiredItem) :
    (Plan.ofReport reported items).IsFaithful reported items := by
  constructor
  · intro item member
    have asked : item.name ∈ items.map DesiredItem.name := List.mem_map_of_mem member
    rw [Plan.ofReport, Plan.get_baselineOf _ _ _ asked]
    exact observed_stateIn reported item.name
  · have listed : (Plan.ofReport reported items).intents =
        items.filterMap fun item =>
          Plan.intent? item ((Plan.ofReport reported items).baseline.get item.name) := by
      simp only [Plan.ofReport, Plan.intentsOf, List.map_filterMap, Option.map_map,
        Function.comp_def, Option.map_id']
    rw [listed]
    exact Plan.intends_filterMap _ items

/-! ### Reports in another order -/

inductive PackageState.Alike : PackageState → PackageState → Prop where
  | absent : Alike .absent .absent
  | installed {first second : String}
      (same : Evr.compare (Evr.ofString first) (Evr.ofString second) = .eq) :
      Alike (.installed first) (.installed second)

structure Intent.Alike (first second : Intent) : Prop where
  name : first.name = second.name
  kind : first.kind = second.kind
  spec : first.spec = second.spec
  prior : first.prior.Alike second.prior

theorem PackageState.Alike.isAbsent {first second : PackageState} (alike : first.Alike second) :
    first.isAbsent = second.isAbsent := by
  cases alike <;> rfl

theorem Build.compare_eq_of_not_exceeds {first second : Build} (low : ¬ first.Exceeds second)
    (high : ¬ second.Exceeds first) :
    Evr.compare first.parsedEvr second.parsedEvr = .eq := by
  have below := Evr.not_newer_iff.mp (Build.not_exceeds_iff.mp low)
  have above := Evr.not_newer_iff.mp (Build.not_exceeds_iff.mp high)
  exact Std.OrientedCmp.isLE_antisymm below above

theorem Observed.alike {reported permuted : List Build} {name : String}
    {first second : PackageState} (same : reported.Perm permuted)
    (observed : Observed reported name first) (also : Observed permuted name second) :
    first.Alike second := by
  cases observed with
  | absent missing =>
      cases also with
      | absent _ => exact .absent
      | installed build member named _ =>
          exact (missing build (same.mem_iff.mpr member) named).elim
  | installed build member named highest =>
      cases also with
      | absent missing => exact (missing build (same.mem_iff.mp member) named).elim
      | installed other otherMember otherNamed otherHighest =>
          refine .installed (Build.compare_eq_of_not_exceeds ?_ ?_)
          · exact otherHighest build (same.mem_iff.mp member) named
          · exact highest other (same.mem_iff.mpr otherMember) otherNamed

theorem Plan.Intends.alike {state other : String → PackageState} {items : List DesiredItem}
    {intents others : List Intent} (intends : Plan.Intends state items intents)
    (also : Plan.Intends other items others)
    (alike : ∀ item ∈ items, (state item.name).Alike (other item.name)) :
    List.Forall₂ Intent.Alike intents others := by
  -- the same items need something on both sides: what is needed does not depend on the EVR
  induction intends generalizing others with
  | nil =>
      cases also
      exact .nil
  | @leave item items intents unneeded _ ih =>
      obtain ⟨here, later⟩ := List.forall_mem_cons.mp alike
      cases also with
      | leave _ rest => exact ih rest later
      | act needed _ =>
          rw [← here.isAbsent] at needed
          exact (unneeded _ _ needed).elim
  | @act item items intents kind spec needed _ ih =>
      obtain ⟨here, later⟩ := List.forall_mem_cons.mp alike
      cases also with
      | leave unneeded _ =>
          rw [here.isAbsent] at needed
          exact (unneeded _ _ needed).elim
      | act otherNeeded rest =>
          rw [← here.isAbsent] at otherNeeded
          have same := needed.intent?.symm.trans otherNeeded.intent?
          cases same
          exact .cons ⟨rfl, rfl, rfl, here⟩ (ih rest later)

/-! ### The run of planning -/

variable {World Handle : Type} {engine : Engine World Handle} {items : List DesiredItem}

theorem plan_apply (supported : ∀ item ∈ items, item.ensure ≠ .held)
    {state after : Journaled (World × Handle)} {reported : List Build}
    (answered : engine.installed (items.map DesiredItem.name) state = .ok reported after) :
    ∃ journal, engine.plan items state =
      .ok (Plan.ofReport reported items) ⟨after.world, journal⟩ := by
  rw [Engine.plan, Act.bind_apply, requireSupported_apply supported]
  simp only [Act.bind_apply, Act.mapFailure, observe_apply answered, Act.forM_note_apply,
    Act.note_apply, Act.pure_apply]
  exact ⟨_, rfl⟩

/-- Where an engine reports these builds as installed, planning supported items asks for them
once, makes no other call, and comes to a plan that is faithful to them. An engine that reports
them in another order is given the same intents, but for the text of equal prior EVRs. -/
theorem plan_isFaithful (supported : ∀ item ∈ items, item.ensure ≠ .held)
    {state : Journaled (World × Handle)} {reported : List Build}
    (answers : ((engine.installed (items.map DesiredItem.name)).outcome state).1 = .ok reported) :
    let run := (engine.recorded.plan items).outcome (Recorded.start state)
    ∃ plan, run.1 = .ok plan ∧
      run.2.world.1.calls = [.installed (items.map DesiredItem.name) (.ok reported)] ∧
      (engine.plan items).outcome state = (run.1, Recorded.forget run.2) ∧
      plan.IsFaithful reported items ∧
      ∀ (other : Engine World Handle) (elsewhere : Journaled (World × Handle))
        (permuted : List Build), reported.Perm permuted →
        ((other.installed (items.map DesiredItem.name)).outcome elsewhere).1 = .ok permuted →
        ∃ also, ((other.plan items).outcome elsewhere).1 = .ok also ∧
          List.Forall₂ Intent.Alike plan.intents also.intents := by
  intro run
  obtain ⟨after, answered⟩ := Act.ok_of_outcome answers
  have recorded : engine.recorded.installed (items.map DesiredItem.name) (Recorded.start state) =
      .ok reported _ :=
    Recorded.installed_of_ok answered
  obtain ⟨journal, planned⟩ := plan_apply supported recorded
  have ran := Act.outcome_of_ok planned
  have faithful := Plan.isFaithful_ofReport reported items
  refine ⟨Plan.ofReport reported items, congrArg Prod.fst ran, ?_,
    Recorded.plan_mirrors.outcome state, faithful, ?_⟩
  · unfold run
    rw [ran]
    rfl
  intro other elsewhere permuted same also
  obtain ⟨left, answeredAlso⟩ := Act.ok_of_outcome also
  obtain ⟨written, plannedAlso⟩ := plan_apply supported answeredAlso
  have faithfulAlso := Plan.isFaithful_ofReport permuted items
  refine ⟨Plan.ofReport permuted items, by rw [Act.outcome_of_ok plannedAlso], ?_⟩
  refine faithful.intents.alike faithfulAlso.intents fun item member => ?_
  exact (faithful.baseline item member).alike same (faithfulAlso.baseline item member)

def bashPair : List Build :=
  [⟨"bash", "1.0-1", "x86_64"⟩, ⟨"curl", "8.5-1", "x86_64"⟩, ⟨"bash", "1.00-1", "i686"⟩]

def bashItems : List DesiredItem :=
  [⟨"bash", .latest⟩, ⟨"tree", .present⟩, ⟨"curl", .version "9"⟩, ⟨"curl", .present⟩]

def holding (builds : List Build) : Journaled (Memory.Database × Memory.Handle) :=
  ⟨({ installed := builds }, {}), []⟩

theorem bashPair_plan_isFaithful : ∃ plan also,
    ((Memory.engine.plan bashItems).outcome (holding bashPair)).1 = .ok plan ∧
      plan.IsFaithful bashPair bashItems ∧
      ((Memory.engine.plan bashItems).outcome (holding bashPair.reverse)).1 = .ok also ∧
      List.Forall₂ Intent.Alike plan.intents also.intents := by
  have supported : ∀ item ∈ bashItems, item.ensure ≠ .held := by decide
  have answers : ((Memory.engine.installed (bashItems.map DesiredItem.name)).outcome
      (holding bashPair)).1 = .ok bashPair := by
    decide +kernel
  have otherAnswers : ((Memory.engine.installed (bashItems.map DesiredItem.name)).outcome
      (holding bashPair.reverse)).1 = .ok bashPair.reverse := by
    decide +kernel
  obtain ⟨plan, ran, -, same, faithful, permuted⟩ := plan_isFaithful supported answers
  obtain ⟨also, planned, alike⟩ := permuted Memory.engine (holding bashPair.reverse)
    bashPair.reverse (List.reverse_perm bashPair).symm otherAnswers
  exact ⟨plan, also, (congrArg Prod.fst same).trans ran, faithful, planned, alike⟩

end PackageProvider
