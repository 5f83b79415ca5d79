import PackageProvider.Proofs.Execution
import PackageProvider.Proofs.Memory.Accounts
import PackageProvider.Proofs.Memory.Calls
import PackageProvider.Proofs.Plan

set_option autoImplicit false

/-! How converging ends on a database in memory: what it reports, and what it leaves. -/

namespace PackageProvider.Memory

open Act (Ensures)

variable {database : Database} {handle : Handle}

namespace Database.Untouched

variable {before after : Database}

theorem isArmed (same : Untouched before after) (armed : after.IsArmed) : before.IsArmed := by
  obtain ⟨point, rule⟩ := armed
  exact ⟨point, same.rules point rule⟩

theorem applied (same : Untouched before after) (transaction : Transaction) :
    Untouched (before.applied transaction) (after.applied transaction) := by
  refine ⟨?_, same.available, same.requires, same.rules⟩
  rw [Database.applied, same.installed, Database.applied]

theorem stateOf (same : Untouched before after) (name : String) :
    after.stateOf name = before.stateOf name := by
  rw [Database.stateOf, same.installed, Database.stateOf]

theorem planned (same : Untouched before after) (items : List DesiredItem) :
    after.planned items = before.planned items := by
  simp only [Database.planned, same.stateOf]

theorem goal (same : Untouched before after) (items : List DesiredItem) :
    after.goal items = before.goal items := by
  rw [Database.goal, same.planned, Database.goal]

theorem inPlace (same : Untouched before after) (item : DesiredItem) :
    after.InPlace item ↔ before.InPlace item := by
  rw [Database.InPlace, same.hasInstalled, Database.InPlace]

theorem baseline (same : Untouched before after) (items : List DesiredItem) :
    after.baseline items = before.baseline items := by
  rw [Database.baseline, same.installed, Database.baseline]

end Database.Untouched

/-! ### Planning -/

theorem observe_ensures (names : List String) (isOpen : handle.isClosed = false) :
    (engine.observe names).Ensures (database, handle) fun result after =>
      database.Untouched after.1 ∧ after.2 = handle ∧
        match result with
        | .ok seen => seen = latestPerArch (Database.named names database.installed)
        | .error _ => database.IsArmed := by
  refine .andThen (query_ensures Database.installed names (fun _ same => same.installed) isOpen)
    ?_ fun _ _ kept => kept
  intro found after kept
  obtain ⟨same, sameHandle, seen⟩ := kept
  exact .note_then (.pure ⟨same, sameHandle, congrArg latestPerArch seen⟩)

theorem plan_ensures {items : List DesiredItem} (supported : ∀ item ∈ items, item.ensure ≠ .held)
    (isOpen : handle.isClosed = false) :
    (engine.plan items).Ensures (database, handle) fun result after =>
      database.Untouched after.1 ∧ after.2 = handle ∧
        match result with
        | .ok plan =>
            plan.intents = database.planned items ∧ plan.baseline = database.baseline items
        | .error error => database.IsArmed ∧ ∃ cause, error = .engine cause := by
  have reports := @query_ensures database handle Database.installed (items.map DesiredItem.name)
    (fun _ same => same.installed) isOpen
  refine (plan_ensures_report supported reports).mono fun result after planned => ?_
  cases result with
  | ok plan =>
      obtain ⟨_, ⟨same, sameHandle, rfl⟩, rfl⟩ := planned
      exact ⟨same, sameHandle, database.map_intentsOf items, rfl⟩
  | error error =>
      obtain ⟨cause, renamed, same, sameHandle, armed⟩ := planned
      exact ⟨same, sameHandle, armed, cause, renamed⟩

/-! ### Carrying out -/

theorem submit_all_ensures (intents : List Intent) (isOpen : handle.isClosed = false) :
    (intents.forM fun intent => engine.submit intent.directive).Ensures (database, handle)
      fun result after =>
        result = .ok () ∧ database.Untouched after.1 ∧
          after.2 = { handle with goal := handle.goal ++ intents.map Intent.directive } := by
  induction intents generalizing database handle with
  | nil =>
      refine .pure ⟨rfl, .refl database, ?_⟩
      rw [List.map_nil, List.append_nil]
  | cons intent rest ih =>
      refine .andThen (submit_ensures intent.directive isOpen) ?_ ?_
      · rintro _ ⟨middle, middleHandle⟩ ⟨-, same, sameHandle⟩
        subst sameHandle
        have onward := @ih middle { handle with goal := handle.goal ++ [intent.directive] } isOpen
        refine onward.mono fun result after kept => ?_
        obtain ⟨allPassed, further, finalHandle⟩ := kept
        refine ⟨allPassed, same.trans further, ?_⟩
        rw [finalHandle, List.map_cons, List.append_assoc, List.singleton_append]
      · rintro _ _ ⟨passed, -⟩
        cases passed

theorem gather_ensures (intents : List Intent) :
    (engine.gather intents).Ensures (database, {}) fun result after =>
      database.Untouched after.1 ∧ after.2.isClosed = false ∧
        match result with
        | .ok transaction =>
            database.resolution (intents.map Intent.directive) = .ok transaction
        | .error error =>
            database.IsArmed ∨
              database.resolution (intents.map Intent.directive) = .error error := by
  refine .andThen (submit_all_ensures intents rfl) ?_ ?_
  · rintro _ ⟨middle, middleHandle⟩ ⟨-, same, sameHandle⟩
    subst sameHandle
    refine Ensures.mono (resolve_ensures rfl) fun result after kept => ?_
    obtain ⟨further, finalHandle, resolves⟩ := kept
    refine ⟨same.trans further, by rw [finalHandle], ?_⟩
    rw [same.resolution] at resolves
    cases result with
    | ok transaction => exact resolves
    | error error => exact resolves.imp_left same.isArmed
  · rintro _ _ ⟨passed, -⟩
    cases passed

/-- What carrying out a transaction comes to: it is applied, or nothing is touched and there
was a rule that says so. -/
def CarriedOut (database : Database) (transaction : Transaction) :
    Except EngineError Unit → Database × Handle → Prop
  | .ok _, after => (database.applied transaction).Untouched after.1
  | .error _, after =>
      database.Untouched after.1 ∧
        (database.failures.Armed .download ∨ database.failures.Armed .apply)

theorem apply_carriedOut {middle : Database} (transaction : Transaction)
    (same : database.Untouched middle) (isOpen : handle.isClosed = false) (text : String) :
    (do
      engine.apply transaction
      Act.note .info text).Ensures (middle, handle) (CarriedOut database transaction) := by
  refine .andThen (apply_ensures transaction isOpen) ?_ ?_
  · intro _ after kept
    exact .note ((same.applied transaction).trans kept.2)
  · intro error after kept
    exact ⟨same.trans kept.2.1, .inr (same.rules .apply kept.2.2)⟩

theorem downloads_ensures (retry : RetryPolicy) (builds : List Build)
    (offered : ∀ build ∈ builds, build ∈ database.available) (isOpen : handle.isClosed = false) :
    (Retry.run retry Retry.warn (engine.download builds)).Ensures (database, handle)
      fun result after =>
        (database.Untouched after.1 ∧ after.2 = handle) ∧
          ∀ error, result = .error error → database.failures.Armed .download := by
  -- What each attempt leaves for the next one, which needs the handle to be open still.
  refine .attempt (fun world => database.Untouched world.1 ∧ world.2 = handle) ?_ _ _
    ⟨.refl database, rfl⟩
  rintro ⟨middle, middleHandle⟩ ⟨same, sameHandle⟩
  subst sameHandle
  have stillOffered : ∀ build ∈ builds, build ∈ middle.available := by
    intro build member
    rw [same.available]
    exact offered build member
  refine (download_ensures builds stillOffered isOpen).mono fun result after kept => ?_
  obtain ⟨further, finalHandle, armed⟩ := kept
  have kept := And.intro (same.trans further) finalHandle
  exact ⟨⟨kept, fun error failed => same.rules .download (armed error failed)⟩, fun _ _ => kept⟩

theorem carryOut_ensures (transaction : Transaction) (retry : RetryPolicy)
    (offered : ∀ build ∈ transaction.installs, build ∈ database.available)
    (isOpen : handle.isClosed = false) :
    (engine.carryOut transaction retry).Ensures (database, handle)
      (CarriedOut database transaction) := by
  unfold Engine.carryOut
  cases transaction.installs.isEmpty with
  | true => exact apply_carriedOut transaction (.refl database) isOpen _
  | false =>
      refine .andThen (downloads_ensures retry transaction.installs offered isOpen) ?_ ?_
      · rintro _ ⟨middle, middleHandle⟩ ⟨⟨same, sameHandle⟩, -⟩
        subst sameHandle
        exact apply_carriedOut transaction same isOpen _
      · rintro error after ⟨⟨same, -⟩, armed⟩
        exact ⟨same, .inl (armed error rfl)⟩

theorem conclude_ensures (options : RunOptions) (transaction : Transaction)
    (offered : ∀ build ∈ transaction.installs, build ∈ database.available)
    (isOpen : handle.isClosed = false) :
    (engine.conclude options transaction).Ensures (database, handle) fun result after =>
      match result with
      | .ok concluded =>
          concluded = transaction ∧
            (if options.noop then database else database.applied transaction).Untouched after.1
      | .error _ =>
          database.Untouched after.1 ∧ options.noop = false ∧
            (database.failures.Armed .download ∨ database.failures.Armed .apply) := by
  refine .note_then ?_
  cases options.noop with
  | true => exact .note_then (.pure ⟨rfl, .refl database⟩)
  | false =>
      cases empty : transaction.isEmpty with
      | true =>
          obtain ⟨noInstalls, noRemovals⟩ := (Bool.and_eq_true _ _).mp empty
          have nothing : transaction = {} := by
            cases transaction
            simp_all
          subst nothing
          exact .pure ⟨rfl, .refl database⟩
      | false =>
          refine .andThen (carryOut_ensures transaction options.retry offered isOpen) ?_ ?_
          · exact fun _ after kept => .pure ⟨rfl, kept⟩
          · exact fun _ after kept => ⟨kept.1, rfl, kept.2⟩

theorem execute_ensures (intents : List Intent) (options : RunOptions) :
    (engine.execute intents options).Ensures (database, {}) fun result after =>
      match result with
      | .ok transaction =>
          database.resolution (intents.map Intent.directive) = .ok transaction ∧
            (if options.noop then database else database.applied transaction).Untouched after.1
      | .error error =>
          database.Untouched after.1 ∧
            (database.IsArmed ∨
              database.resolution (intents.map Intent.directive) = .error error) := by
  cases intents with
  | nil =>
      refine .pure ⟨rfl, ?_⟩
      cases options.noop <;> exact .refl database
  | cons intent rest =>
      rw [Engine.execute_cons]
      refine .andThen (gather_ensures (intent :: rest)) ?_ ?_
      · rintro transaction ⟨middle, handle⟩ ⟨same, isOpen, resolves⟩
        have offered : ∀ build ∈ transaction.installs, build ∈ middle.available := by
          rw [same.available]
          exact (Database.resolution_resolved resolves).offered
        have concludes := conclude_ensures options transaction offered isOpen
        refine concludes.mono fun result after kept => ?_
        cases result with
        | ok concluded =>
            obtain ⟨sameTransaction, further⟩ := kept
            subst sameTransaction
            refine ⟨resolves, ?_⟩
            cases noop : options.noop with
            | true =>
                rw [noop] at further
                exact same.trans further
            | false =>
                rw [noop] at further
                exact (same.applied concluded).trans further
        | error error =>
            obtain ⟨further, -, armed | armed⟩ := kept
            · exact ⟨same.trans further, .inl ⟨.download, same.rules _ armed⟩⟩
            · exact ⟨same.trans further, .inl ⟨.apply, same.rules _ armed⟩⟩
      · rintro error after ⟨same, -, reason⟩
        exact ⟨same, reason⟩

/-! ### Converging -/

/-- How converging the items can end: they are refused, the engine fails, or there is a
transaction that is reported and, unless nothing is to be changed, applied. -/
inductive Converged (database : Database) (items : List DesiredItem) (noop : Bool) :
    Except ConvergeError (List Change) → Database → Prop where
  | refused (held : ∃ item ∈ items, item.ensure = .held) :
      Converged database items noop (.error .notImplemented) database
  | failed {error : EngineError} {after : Database} (same : database.Untouched after)
      (supported : ∀ item ∈ items, item.ensure ≠ .held)
      (reason : database.IsArmed ∨ database.resolution (database.goal items) = .error error) :
      Converged database items noop (.error (.engine error)) after
  | done {transaction : Transaction} {after : Database}
      (supported : ∀ item ∈ items, item.ensure ≠ .held)
      (resolves : database.resolution (database.goal items) = .ok transaction)
      (leaves : (if noop then database else database.applied transaction).Untouched after) :
      Converged database items noop
        (.ok (report transaction (items.map DesiredItem.name) (database.baseline items))) after

/-- The part of converging that a session is opened for. What closing the session leaves is
left open. -/
theorem converge_body_ensures {middle : Database} {items : List DesiredItem} (options : RunOptions)
    (supported : ∀ item ∈ items, item.ensure ≠ .held) (same : database.Untouched middle) :
    (do
      let plan ← engine.plan items
      let transaction ← (engine.execute plan.intents options).mapFailure ConvergeError.engine
      return report transaction (items.map DesiredItem.name) plan.baseline).Ensures (middle, {})
      fun result left => ∀ after, left.1.Untouched after →
        Converged database items options.noop result after := by
  refine .andThen (plan_ensures supported rfl) ?_ ?_
  · rintro plan ⟨planned, handle⟩ ⟨plannedSame, sameHandle, intents, baseline⟩
    subst sameHandle
    rw [intents, baseline, same.planned, same.baseline]
    have untouched := same.trans plannedSame
    refine .andThen (.mapFailure (execute_ensures (database.planned items) options)) ?_ ?_
    · rintro transaction left ⟨resolves, leaves⟩
      refine .pure fun after closed => .done supported ?_ ?_
      · rw [← untouched.resolution]
        exact resolves
      · cases noop : options.noop with
        | true =>
            rw [noop] at leaves
            exact (untouched.trans leaves).trans closed
        | false =>
            rw [noop] at leaves
            exact ((untouched.applied transaction).trans leaves).trans closed
    · rintro _ left ⟨error, renamed, leaves, reason⟩ after closed
      rw [renamed]
      refine .failed ((untouched.trans leaves).trans closed) supported ?_
      rcases reason with armed | unresolved
      · exact .inl (untouched.isArmed armed)
      · rw [untouched.resolution] at unresolved
        exact .inr unresolved
  · rintro _ left ⟨plannedSame, -, armed, error, renamed⟩ after closed
    rw [renamed]
    exact .failed ((same.trans plannedSame).trans closed) supported (.inl (same.isArmed armed))

theorem converge_ensures (items : List DesiredItem) (options : RunOptions) :
    (engine.converge items options).Ensures database
      (Converged database items options.noop) := by
  refine .andThen (requireSupported_ensures items database) ?_ ?_
  · rintro _ after ⟨unchanged, ⟨-, supported⟩ | ⟨refused, -⟩⟩
    · rw [unchanged]
      refine .inSession (openHandle_ensures.mono fun opened after kept => ?_)
      cases opened with
      | error error => exact .failed kept.1 supported (.inl kept.2)
      | ok handle =>
          obtain ⟨same, fresh⟩ := kept
          rw [fresh]
          refine (converge_body_ensures options supported same).mono fun result left kept => ?_
          exact fun journal => kept _ (close_untouched ⟨left, journal⟩)
    · cases refused
  · rintro _ after ⟨unchanged, ⟨passed, -⟩ | ⟨refused, held⟩⟩
    · cases passed
    · cases refused
      rw [unchanged]
      exact .refused held

theorem converge_resolved (journal : List JournalEntry) {items : List DesiredItem}
    (options : RunOptions) {transaction : Transaction} (calm : ¬ database.IsArmed)
    (supported : ∀ item ∈ items, item.ensure ≠ .held)
    (resolves : database.resolution (database.goal items) = .ok transaction) :
    ∃ after, engine.converge items options ⟨database, journal⟩ =
        .ok (report transaction (items.map DesiredItem.name) (database.baseline items)) after ∧
      (if options.noop then database else database.applied transaction).Untouched after.world := by
  cases run : engine.converge items options ⟨database, journal⟩ with
  | ok changes after =>
      have ended := Act.Ensures.of_ok (converge_ensures items options) run
      cases ended with
      | done _ resolved leaves =>
          rw [resolves] at resolved
          cases resolved
          exact ⟨after, rfl, leaves⟩
  | error error after =>
      have ended := Act.Ensures.of_error (converge_ensures items options) run
      generalize after.world = left at ended
      cases ended with
      | refused held =>
          obtain ⟨item, member, isHeld⟩ := held
          exact (supported item member isHeld).elim
      | failed _ _ reason =>
          rcases reason with armed | unresolved
          · exact (calm armed).elim
          · rw [resolves] at unresolved
            cases unresolved

end PackageProvider.Memory
