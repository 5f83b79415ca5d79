import PackageProvider.Proofs.Execution

set_option autoImplicit false

/-! Engines that keep a record of the calls made on them. Recording changes nothing but the
record: what an action does with a recorded engine is what it does with the engine. -/

namespace PackageProvider

inductive Call where
  | opened (answer : Except EngineError Unit)
  | installed (names : List String) (answer : Except EngineError (List Build))
  | available (names : List String) (answer : Except EngineError (List Build))
  | submitted (directive : Directive) (answer : Except EngineError Unit)
  | resolved (answer : Except EngineError Transaction)
  | downloaded (builds : List Build) (answer : Except EngineError Unit)
  | applied (transaction : Transaction) (answer : Except EngineError Unit)
  | closed

def failure? {Error Result : Type} : Except Error Result → Option Error
  | .ok _ => none
  | .error error => some error

def Call.error? : Call → Option EngineError
  | opened answer => failure? answer
  | installed _ answer => failure? answer
  | available _ answer => failure? answer
  | submitted _ answer => failure? answer
  | resolved answer => failure? answer
  | downloaded _ answer => failure? answer
  | applied _ answer => failure? answer
  | closed => none

structure Recorded (World : Type) where
  world : World
  calls : List Call := []

namespace Recorded

variable {World Handle : Type}

def add (recorded : Recorded World) (world : World) (call : Call) : Recorded World :=
  ⟨world, recorded.calls ++ [call]⟩

def forget (state : Journaled (Recorded World × Handle)) : Journaled (World × Handle) :=
  ⟨(state.world.1.world, state.world.2), state.journal⟩

def start (state : Journaled (World × Handle)) : Journaled (Recorded World × Handle) :=
  ⟨(⟨state.world.1, []⟩, state.world.2), state.journal⟩

/-- What an action on a handle does to a recorded world, and a record of its answer. -/
def calling {Result : Type} (call : Except EngineError Result → Call)
    (action : Act (World × Handle) EngineError Result) :
    Act (Recorded World × Handle) EngineError Result := fun state =>
  match action (forget state) with
  | .ok value after =>
      .ok value ⟨(state.world.1.add after.world.1 (call (.ok value)), after.world.2), after.journal⟩
  | .error error after =>
      .error error
        ⟨(state.world.1.add after.world.1 (call (.error error)), after.world.2), after.journal⟩

end Recorded

namespace Engine

variable {World Handle : Type}

def recorded (engine : Engine World Handle) : Engine (Recorded World) Handle where
  openHandle := fun state =>
    match engine.openHandle ⟨state.world.world, state.journal⟩ with
    | .ok handle after =>
        .ok handle ⟨state.world.add after.world (.opened (.ok ())), after.journal⟩
    | .error error after =>
        .error error ⟨state.world.add after.world (.opened (.error error)), after.journal⟩
  installed := fun names => Recorded.calling (.installed names) (engine.installed names)
  available := fun names => Recorded.calling (.available names) (engine.available names)
  submit := fun directive => Recorded.calling (.submitted directive) (engine.submit directive)
  resolve := Recorded.calling .resolved engine.resolve
  download := fun builds => Recorded.calling (.downloaded builds) (engine.download builds)
  apply := fun transaction => Recorded.calling (.applied transaction) (engine.apply transaction)
  close := fun state =>
    let after := engine.close (Recorded.forget state)
    ⟨(state.world.1.add after.world.1 .closed, after.world.2), after.journal⟩

end Engine

namespace Recorded

variable {World Handle Error Result Next : Type}

def after (state : Journaled (Recorded World × Handle)) (call : Call)
    (next : Journaled (World × Handle)) : Journaled (Recorded World × Handle) :=
  ⟨(state.world.1.add next.world.1 call, next.world.2), next.journal⟩

section

variable {engine : Engine World Handle} {names : List String}
  {state : Journaled (Recorded World × Handle)} {builds : List Build}
  {next : Journaled (World × Handle)}

theorem installed_of_ok (answered : engine.installed names (forget state) = .ok builds next) :
    engine.recorded.installed names state =
      .ok builds (after state (.installed names (.ok builds)) next) := by
  simp only [Engine.recorded, calling, answered, after]

theorem available_of_ok (answered : engine.available names (forget state) = .ok builds next) :
    engine.recorded.available names state =
      .ok builds (after state (.available names (.ok builds)) next) := by
  simp only [Engine.recorded, calling, answered, after]

end

/-! ### Recording changes nothing else -/

def forgetIn : EStateM.Result Error (Journaled (Recorded World × Handle)) Result →
    EStateM.Result Error (Journaled (World × Handle)) Result
  | .ok value after => .ok value (forget after)
  | .error error after => .error error (forget after)

/-- Whether an action on recorded worlds does to them, but for the record, what another one
does to worlds. -/
def Mirrors (recorded : Act (Recorded World × Handle) Error Result)
    (plain : Act (World × Handle) Error Result) : Prop :=
  ∀ state, plain (forget state) = forgetIn (recorded state)

namespace Mirrors

variable {recorded : Act (Recorded World × Handle) Error Result}
  {plain : Act (World × Handle) Error Result}

theorem pure (value : Result) :
    Mirrors (Pure.pure value : Act (Recorded World × Handle) Error Result) (Pure.pure value) :=
  fun _ => rfl

theorem note (level : Level) (text : String) :
    Mirrors (Act.note level text : Act (Recorded World × Handle) Error Unit)
      (Act.note level text) :=
  fun _ => rfl

theorem calling (call : Except EngineError Result → Call)
    (action : Act (World × Handle) EngineError Result) :
    Mirrors (Recorded.calling call action) action := by
  intro state
  simp only [Recorded.calling]
  cases action (forget state) <;> rfl

theorem bind {next : Result → Act (Recorded World × Handle) Error Next}
    {plainNext : Result → Act (World × Handle) Error Next} (first : Mirrors recorded plain)
    (follows : ∀ value, Mirrors (next value) (plainNext value)) :
    Mirrors (recorded >>= next) (plain >>= plainNext) := by
  intro state
  rw [Act.bind_apply, Act.bind_apply, first state]
  cases recorded state with
  | ok value after => exact follows value after
  | error error after => rfl

theorem forM {Item : Type} {recorded : Item → Act (Recorded World × Handle) Error Unit}
    {plain : Item → Act (World × Handle) Error Unit}
    (each : ∀ item, Mirrors (recorded item) (plain item)) (items : List Item) :
    Mirrors (items.forM recorded) (items.forM plain) := by
  induction items with
  | nil => exact .pure ()
  | cons item rest ih => exact .bind (each item) fun _ => ih

theorem attempt {recorded : Act (Recorded World × Handle) EngineError Result}
    {plain : Act (World × Handle) EngineError Result} (mirrors : Mirrors recorded plain)
    (policy : RetryPolicy) (spare : Nat) :
    Mirrors (Retry.attempt policy Retry.warn recorded spare)
      (Retry.attempt policy Retry.warn plain spare) := by
  induction spare with
  | zero => exact mirrors
  | succ spare ih =>
      intro state
      have plainRan := mirrors state
      cases ran : recorded state with
      | ok value after =>
          rw [ran] at plainRan
          rw [Retry.attempt_of_ok ran, Retry.attempt_of_ok plainRan, forgetIn]
      | error error after =>
          rw [ran] at plainRan
          by_cases passing : error.isRetryable = true
          · rw [Retry.attempt_of_passing ran passing, Retry.attempt_of_passing plainRan passing]
            exact Mirrors.bind (.note _ _) (fun _ => ih) after
          · rw [Retry.attempt_of_lasting ran passing, Retry.attempt_of_lasting plainRan passing,
              forgetIn]

theorem mapFailure {Failure : Type} (mirrors : Mirrors recorded plain) (rename : Error → Failure) :
    Mirrors (recorded.mapFailure rename) (plain.mapFailure rename) := by
  intro state
  rw [Act.mapFailure, mirrors state, Act.mapFailure]
  cases recorded state <;> rfl

theorem outcome (mirrors : Mirrors recorded plain) (state : Journaled (World × Handle)) :
    plain.outcome state =
      ((recorded.outcome (start state)).1, forget (recorded.outcome (start state)).2) := by
  have same : plain state = forgetIn (recorded (start state)) := mirrors (start state)
  rw [Act.outcome, same, Act.outcome]
  cases recorded (start state) <;> rfl

end Mirrors

section

variable {engine : Engine World Handle}

theorem requireSupported_mirrors {items : List DesiredItem} :
    Mirrors (requireSupported items : Act (Recorded World × Handle) ConvergeError Unit)
      (requireSupported items) := by
  unfold requireSupported
  cases items.find? fun item => !item.ensure.isSupported with
  | none => exact .pure ()
  | some item => exact .bind (.note _ _) fun _ _ => rfl

theorem observe_mirrors {names : List String} :
    Mirrors (engine.recorded.observe names) (engine.observe names) :=
  .bind (.calling _ _) fun _ => .bind (.note _ _) fun _ => .pure _

theorem takeStock_mirrors {names : List String} :
    Mirrors (engine.recorded.takeStock names) (engine.takeStock names) := by
  refine .bind observe_mirrors fun present => ?_
  cases names.isEmpty with
  | true => exact .pure _
  | false => exact .bind (.calling _ _) fun _ => .pure _

theorem plan_mirrors {items : List DesiredItem} :
    Mirrors (engine.recorded.plan items) (engine.plan items) := by
  refine .bind requireSupported_mirrors fun _ => .bind (.mapFailure observe_mirrors _) ?_
  exact fun builds => .bind (.forM (fun _ => .note _ _) _) fun _ => .bind (.note _ _) fun _ =>
    .pure _

end

/-! ### The calls that actions make -/

/-- From whatever state it is started, the action makes calls and comes to a result that keep
the promise. -/
def Makes (action : Act (Recorded World × Handle) Error Result)
    (promise : List Call → Except Error Result → Prop) : Prop :=
  ∀ state, ∃ calls,
    (action.outcome state).2.world.1.calls = state.world.1.calls ++ calls ∧
      promise calls (action.outcome state).1

namespace Makes

variable {action : Act (Recorded World × Handle) Error Result}
  {promise : List Call → Except Error Result → Prop}

theorem mono {weaker : List Call → Except Error Result → Prop} (makes : Makes action promise)
    (weakens : ∀ calls result, promise calls result → weaker calls result) :
    Makes action weaker := by
  intro state
  obtain ⟨calls, made, kept⟩ := makes state
  exact ⟨calls, made, weakens calls _ kept⟩

theorem pure {value : Result} (kept : promise [] (.ok value)) :
    Makes (Pure.pure value : Act (Recorded World × Handle) Error Result) promise :=
  fun _ => ⟨[], (List.append_nil _).symm, kept⟩

theorem note {level : Level} {text : String} {promise : List Call → Except Error Unit → Prop}
    (kept : promise [] (.ok ())) :
    Makes (Act.note level text : Act (Recorded World × Handle) Error Unit) promise :=
  fun _ => ⟨[], (List.append_nil _).symm, kept⟩

theorem calling (call : Except EngineError Result → Call)
    (action : Act (World × Handle) EngineError Result) :
    Makes (Recorded.calling call action) fun calls result => calls = [call result] := by
  intro state
  refine ⟨_, ?_, rfl⟩
  simp only [Act.outcome, Recorded.calling]
  cases action (forget state) <;> rfl

theorem bind {next : Result → Act (Recorded World × Handle) Error Next}
    {final : List Call → Except Error Next → Prop} (first : Makes action promise)
    (follows : ∀ calls value, promise calls (.ok value) →
      Makes (next value) fun more result => final (calls ++ more) result)
    (fails : ∀ calls error, promise calls (.error error) → final calls (.error error)) :
    Makes (action >>= next) final := by
  intro state
  obtain ⟨calls, made, kept⟩ := first state
  simp only [Act.outcome, Act.bind_apply] at made kept ⊢
  cases ran : action state with
  | ok value after =>
      rw [ran] at made kept
      obtain ⟨more, further, finished⟩ := follows calls value kept after
      refine ⟨calls ++ more, ?_, finished⟩
      rw [← List.append_assoc, ← made]
      exact further
  | error error after =>
      rw [ran] at made kept
      exact ⟨calls, made, fails calls error kept⟩

theorem note_then {level : Level} {text : String}
    {next : Unit → Act (Recorded World × Handle) Error Next}
    {final : List Call → Except Error Next → Prop} (makes : Makes (next ()) final) :
    Makes (Act.note level text >>= next) final :=
  fun state => makes { state with journal := state.journal ++ [⟨level, text⟩] }

/-- An action that goes on silently makes no more calls than one that goes on otherwise. -/
theorem prefix_bind {silent noisy : Result → Act (Recorded World × Handle) Error Next}
    {later : Result → List Call → Except Error Next → Prop}
    (silence : ∀ value, Makes (silent value) fun calls _ => calls = [])
    (noise : ∀ value, Makes (noisy value) (later value))
    (state : Journaled (Recorded World × Handle)) :
    ((action >>= silent).outcome state).2.world.1.calls <+:
      ((action >>= noisy).outcome state).2.world.1.calls := by
  simp only [Act.outcome, Act.bind_apply]
  cases action state with
  | error error after => exact List.prefix_rfl
  | ok value after =>
      obtain ⟨none, same, nothing⟩ := silence value after
      obtain ⟨more, further, -⟩ := noise value after
      rw [nothing, List.append_nil] at same
      refine ⟨more, ?_⟩
      simp only [Act.outcome] at same further
      rw [same, further]

end Makes

end Recorded

end PackageProvider
