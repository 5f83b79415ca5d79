import PackageProvider.Proofs.Memory.Inventory
import PackageProvider.Proofs.Memory.Unclosed
import PackageProvider.Proofs.Provider

set_option autoImplicit false

/-! A provider over a database in memory: what callers can rely on, whatever they send and
whatever goes wrong on the way. -/

namespace PackageProvider.Memory

/-- What an answer says of a run of the engine: one line, which is a failure exactly if the run
failed, and nothing but the run has touched the database. -/
structure Reports {Error Result : Type} (shown : Result → Response) (message : Error → String)
    (ran : Except Error Result × Journaled Database)
    (answered : Except ProviderError String × Journaled Database) : Prop where
  line : ∃ line, answered.1 = .ok line ∧ OneLine line ∧
    line = (Response.ofOutcome shown message ran.1).line ∧
    (IsFailureLine line ↔ ∃ error, ran.1 = .error error)
  world : answered.2.world = ran.2.world

theorem Reports.of_line {Error Result : Type} {shown : Result → Response}
    {message : Error → String} {ran : Except Error Result × Journaled Database}
    {answered : Except ProviderError String × Journaled Database}
    (successes : ∀ result message, shown result ≠ .failure message)
    (written : answered.1 = .ok (Response.ofOutcome shown message ran.1).line ∧
      answered.2.world = ran.2.world) :
    Reports shown message ran answered where
  line := ⟨_, written.1, Response.line_oneLine _, rfl,
    Response.isFailureLine_ofOutcome successes message ran.1⟩
  world := written.2

def served (caller : Caller) (retry : RetryPolicy) (action : Action) (input : ByteArray)
    (start : Journaled Database) : Except ProviderError String × Journaled Database :=
  (({ engine, caller, retry } : Provider Database Handle).handle action input true).outcome start

structure Serves (caller : Caller) (retry : RetryPolicy) (input : ByteArray)
    (start : Journaled Database) : Prop where
  /-- Input that cannot be read is an error, nothing is written and no engine is used. -/
  unreadableGet : ∀ error, readRequest GetRequest.shape input = .error error →
    ∀ {World Handle : Type} (engine : Engine World Handle) (state : Journaled World),
      ({ engine, caller, retry } : Provider World Handle).handle .get input true state =
        .error (.input error) state
  unreadableSet : ∀ error, readRequest SetRequest.shape input = .error error →
    ∀ {World Handle : Type} (engine : Engine World Handle) (state : Journaled World),
      ({ engine, caller, retry } : Provider World Handle).handle .set input true state =
        .error (.input error) state
  /-- Who may not change packages is told so, whatever was asked, and no engine is used. -/
  refuses : ∀ request, readRequest SetRequest.shape input = .ok request →
    caller.isPrivileged = false →
    ∀ {World Handle : Type} (engine : Engine World Handle) (state : Journaled World),
      ({ engine, caller, retry } : Provider World Handle).handle .set input true state =
        .ok (Response.failure rootRequired).line
          { state with journal := state.journal ++ caller.remarks }
  gets : ∀ request, readRequest GetRequest.shape input = .ok request →
    Reports Response.ofInventory EngineError.message
      ((engine.currentState request.names).outcome start) (served caller retry .get input start)
  sets : ∀ request, readRequest SetRequest.shape input = .ok request → caller.isPrivileged = true →
    Reports Response.changes ConvergeError.message
      ((engine.converge request.items { noop := request.noop, retry }).outcome
        { start with journal := start.journal ++ caller.remarks })
      (served caller retry .set input start)
  unclosed : ∀ action, action = .get ∨ action = .set →
    (served caller retry action input start).2.world.unclosed = start.world.unclosed
  getKeeps : (served caller retry .get input start).2.world.installed = start.world.installed

variable (caller : Caller) (retry : RetryPolicy) (input : ByteArray) (start : Journaled Database)

theorem served_get_world :
    (served caller retry .get input start).2.world = start.world ∨ ∃ names,
      (served caller retry .get input start).2.world =
        ((engine.currentState names).outcome start).2.world := by
  cases reads : readRequest GetRequest.shape input with
  | error error =>
      refine .inl ?_
      rw [served, Act.outcome, Provider.handle_get_of_unreadable reads]
  | ok request => exact .inr ⟨request.names, (Provider.handle_get_of_read reads).2⟩

theorem served_set_world :
    (served caller retry .set input start).2.world = start.world ∨ ∃ items options journal,
      (served caller retry .set input start).2.world =
        ((engine.converge items options).outcome ⟨start.world, journal⟩).2.world := by
  cases reads : readRequest SetRequest.shape input with
  | error error =>
      refine .inl ?_
      rw [served, Act.outcome, Provider.handle_set_of_unreadable reads]
  | ok request =>
      cases privileged : caller.isPrivileged with
      | false =>
          refine .inl ?_
          rw [served, Act.outcome, Provider.handle_set_of_unprivileged reads privileged]
      | true => exact .inr ⟨request.items, _, _, (Provider.handle_set_of_read reads privileged).2⟩

theorem provider_serves : Serves caller retry input start := by
  constructor
  · intro error unreadable World Handle engine state
    exact Provider.handle_get_of_unreadable unreadable
  · intro error unreadable World Handle engine state
    exact Provider.handle_set_of_unreadable unreadable
  · intro request reads unprivileged World Handle engine state
    exact Provider.handle_set_of_unprivileged reads unprivileged
  · intro request reads
    exact .of_line nofun (Provider.handle_get_of_read reads)
  · intro request reads privileged
    exact .of_line nofun (Provider.handle_set_of_read reads privileged)
  · intro action asked
    rcases asked with same | same
    · rw [same]
      rcases served_get_world caller retry input start with untouched | ⟨names, looked⟩
      · rw [untouched]
      · rw [looked]
        exact currentState_unclosed names start.journal
    · rw [same]
      rcases served_set_world caller retry input start with
        untouched | ⟨items, options, journal, ran⟩
      · rw [untouched]
      · rw [ran]
        exact converge_unclosed items options journal
  · rcases served_get_world caller retry input start with untouched | ⟨names, looked⟩
    · rw [untouched]
    · rw [looked]
      exact (currentState_ensures names start.journal).1.installed

def unreachable : Database where
  failures := { query := some ⟨.network, "no mirror", none⟩ }

theorem eq_ok_of_toOption {Error Result : Type} {outcome : Except Error Result} {result : Result}
    (same : outcome.toOption = some result) : outcome = .ok result := by
  cases outcome with
  | ok value => exact congrArg Except.ok (Option.some.inj same)
  | error error => cases same

theorem unreachable_serves :
    let asking := "\x7b\"names\":[\"tree\"]\x7d".toUTF8
    let wanting := "\x7b\"updates\":[]\x7d".toUTF8
    let answer (action : Action) (input : ByteArray) :=
      served (.user 1000) .once action input ⟨unreachable, []⟩
    (∃ line, (answer .get asking).1 = .ok line ∧ OneLine line ∧ IsFailureLine line) ∧
      (answer .get asking).2.world.unclosed = 0 ∧
      (answer .set wanting).1 = .ok (Response.failure rootRequired).line := by
  intro asking wanting answer
  have asks : readRequest GetRequest.shape asking = .ok ⟨["tree"]⟩ :=
    eq_ok_of_toOption (by decide +kernel)
  have wants : readRequest SetRequest.shape wanting = .ok { items := [] } :=
    eq_ok_of_toOption (by decide +kernel)
  have asked := provider_serves (.user 1000) .once asking ⟨unreachable, []⟩
  have wanted := provider_serves (.user 1000) .once wanting ⟨unreachable, []⟩
  refine ⟨?_, asked.unclosed .get (.inl rfl), ?_⟩
  · obtain ⟨line, written, oneLine, -, fails⟩ := (asked.gets _ asks).line
    exact ⟨line, written, oneLine, fails.mpr ⟨_, rfl⟩⟩
  · have refused := wanted.refuses _ wants rfl engine ⟨unreachable, []⟩
    change (served _ _ _ _ _).1 = _
    rw [served, Act.outcome, refused]

end PackageProvider.Memory
