import PackageProvider.Engine
import PackageProvider.Proofs.Retry

set_option autoImplicit false

/-! Reasoning about actions. What an action promises is stated on its result and on the
world it leaves; the journal it starts from plays no part. -/

namespace PackageProvider.Act

variable {World Handle Error Failure Result Next : Type}

@[simp] theorem bind_apply (first : Act World Error Result) (next : Result → Act World Error Next)
    (state : Journaled World) :
    (first >>= next) state =
      match first state with
      | .ok value after => next value after
      | .error error after => .error error after := by
  simp only [bind, EStateM.bind]
  cases first state <;> rfl

@[simp] theorem pure_apply (value : Result) (state : Journaled World) :
    (pure value : Act World Error Result) state = .ok value state := rfl

@[simp] theorem throw_apply (error : Error) (state : Journaled World) :
    (throw error : Act World Error Result) state = .error error state := rfl

@[simp] theorem readWorld_apply (state : Journaled World) :
    (readWorld : Act World Error World) state = .ok state.world state := rfl

@[simp] theorem changeWorld_apply (change : World → World) (state : Journaled World) :
    (changeWorld change : Act World Error Unit) state =
      .ok () { state with world := change state.world } := rfl

theorem note_apply (level : Level) (text : String) (state : Journaled World) :
    (note level text : Act World Error Unit) state =
      .ok () { state with journal := state.journal ++ [⟨level, text⟩] } := rfl

theorem forM_note_apply {Item : Type} (level : Level) (text : Item → String) (items : List Item)
    (state : Journaled World) :
    (items.forM fun item => note level (text item) : Act World Error Unit) state =
      .ok () { state with
        journal := state.journal ++ items.map fun item => JournalEntry.mk level (text item) } := by
  induction items generalizing state with
  | nil => simp [List.forM]
  | cons item rest ih =>
      simp only [List.forM, bind_apply, note_apply, ih, List.map_cons, List.append_assoc,
        List.singleton_append]

theorem ok_of_outcome {action : Act World Error Result} {before : Journaled World} {value : Result}
    (came : (action.outcome before).1 = .ok value) : ∃ after, action before = .ok value after := by
  rw [outcome] at came
  cases ran : action before with
  | ok result after =>
      rw [ran] at came
      cases came
      exact ⟨after, rfl⟩
  | error error after =>
      rw [ran] at came
      cases came

theorem outcome_of_ok {action : Act World Error Result} {before after : Journaled World}
    {value : Result} (ran : action before = .ok value after) :
    action.outcome before = (.ok value, after) := by
  rw [outcome, ran]

/-- Started on the world `before`, the action comes to a result and leaves a world that
keep the promise, whatever the journal says. -/
def Ensures (action : Act World Error Result) (before : World)
    (promise : Except Error Result → World → Prop) : Prop :=
  ∀ journal, promise (action.outcome ⟨before, journal⟩).1 (action.outcome ⟨before, journal⟩).2.world

def Continues (next : Result → Act World Error Next) (promise : Except Error Next → World → Prop) :
    Except Error Result → World → Prop
  | .ok value, after => (next value).Ensures after promise
  | .error error, after => promise (.error error) after

/-- What an attempt has to come to if `spare` more may follow: what the next one needs if it is
tried again, and else what is promised. -/
def Passes (ready : Nat → World → Prop) (promise : Except EngineError Result → World → Prop) :
    Nat → Except EngineError Result → World → Prop
  | spare + 1, .error error, after =>
      if error.isRetryable then ready spare after else promise (.error error) after
  | _, result, after => promise result after

theorem Passes.of_promise {ready : Nat → World → Prop}
    {promise : Except EngineError Result → World → Prop} {spare : Nat}
    {result : Except EngineError Result} {after : World} (kept : promise result after)
    (again : ∀ error left, result = .error error → error.isRetryable = true → spare = left + 1 →
      ready left after) :
    Passes ready promise spare result after := by
  cases result with
  | ok value => cases spare <;> exact kept
  | error error =>
      cases spare with
      | zero => exact kept
      | succ spare =>
          simp only [Passes]
          split
          · rename_i passing
            exact again error spare rfl passing rfl
          · exact kept

namespace Ensures

variable {before : World} {promise : Except Error Result → World → Prop}

theorem mono {action : Act World Error Result} {weaker : Except Error Result → World → Prop}
    (ensured : action.Ensures before promise)
    (weakens : ∀ result after, promise result after → weaker result after) :
    action.Ensures before weaker :=
  fun journal => weakens _ _ (ensured journal)

theorem and {action : Act World Error Result} {other : Except Error Result → World → Prop}
    (ensured : action.Ensures before promise) (also : action.Ensures before other) :
    action.Ensures before fun result after => promise result after ∧ other result after :=
  fun journal => ⟨ensured journal, also journal⟩

theorem of_ok {action : Act World Error Result} {value : Result} {before after : Journaled World}
    (ensured : action.Ensures before.world promise) (run : action before = .ok value after) :
    promise (.ok value) after.world := by
  have kept := ensured before.journal
  simpa only [outcome, run] using kept

theorem of_error {action : Act World Error Result} {error : Error} {before after : Journaled World}
    (ensured : action.Ensures before.world promise) (run : action before = .error error after) :
    promise (.error error) after.world := by
  have kept := ensured before.journal
  simpa only [outcome, run] using kept

theorem pure {value : Result} (kept : promise (.ok value) before) :
    (Pure.pure value : Act World Error Result).Ensures before promise :=
  fun _ => kept

theorem bind {first : Act World Error Result} {next : Result → Act World Error Next}
    {promise : Except Error Next → World → Prop}
    (ensured : first.Ensures before (Continues next promise)) :
    (first >>= next).Ensures before promise := by
  intro journal
  have continued := ensured journal
  simp only [outcome, bind_apply] at continued ⊢
  cases ran : first ⟨before, journal⟩ with
  | ok value after =>
      rw [ran] at continued
      exact continued after.journal
  | error error after =>
      rw [ran] at continued
      exact continued

theorem andThen {first : Act World Error Result} {next : Result → Act World Error Next}
    {known : Except Error Result → World → Prop} {promise : Except Error Next → World → Prop}
    (ensured : first.Ensures before known)
    (continues : ∀ value after, known (.ok value) after → (next value).Ensures after promise)
    (fails : ∀ error after, known (.error error) after → promise (.error error) after) :
    (first >>= next).Ensures before promise := by
  refine bind (ensured.mono fun result after kept => ?_)
  cases result with
  | ok value => exact continues value after kept
  | error error => exact fails error after kept

theorem note {level : Level} {text : String} {promise : Except Error Unit → World → Prop}
    (kept : promise (.ok ()) before) :
    (Act.note level text : Act World Error Unit).Ensures before promise :=
  fun _ => kept

theorem note_then {level : Level} {text : String} {next : Unit → Act World Error Next}
    {promise : Except Error Next → World → Prop} (kept : (next ()).Ensures before promise) :
    (Act.note level text >>= next).Ensures before promise :=
  bind (note kept)

theorem mapFailure {action : Act World Error Result} {rename : Error → Failure}
    (ensured : action.Ensures before promise) :
    (action.mapFailure rename).Ensures before fun result after =>
      match result with
      | .ok value => promise (.ok value) after
      | .error failure => ∃ error, failure = rename error ∧ promise (.error error) after := by
  intro journal
  have kept := ensured journal
  simp only [outcome, Act.mapFailure] at kept ⊢
  cases ran : action ⟨before, journal⟩ with
  | ok value after =>
      rw [ran] at kept
      exact kept
  | error error after =>
      rw [ran] at kept
      exact ⟨error, rfl, kept⟩

theorem forM_note_then {Item : Type} (items : List Item) (level : Level) (text : Item → String)
    {next : Unit → Act World Error Next} {promise : Except Error Next → World → Prop}
    (kept : (next ()).Ensures before promise) :
    ((items.forM fun item => Act.note level (text item)) >>= next).Ensures before promise := by
  refine bind ?_
  induction items with
  | nil => exact pure kept
  | cons item rest ih => exact note_then ih

theorem inSession {engine : Engine World Handle} {rename : EngineError → Error}
    {body : Act (World × Handle) Error Result}
    (opens : engine.openHandle.Ensures before fun opened after =>
      match opened with
      | .ok handle => body.Ensures (after, handle) fun result left =>
          ∀ journal, promise result (engine.close ⟨left, journal⟩).world.1
      | .error error => promise (.error (rename error)) after) :
    (engine.inSession rename body).Ensures before promise := by
  intro journal
  have opened := opens journal
  simp only [outcome, Engine.inSession, Engine.openSession, bind_apply, pure_apply, note_apply]
    at opened ⊢
  cases ran : engine.openHandle ⟨before, journal⟩ with
  | error error after =>
      rw [ran] at opened
      exact opened
  | ok handle after =>
      rw [ran] at opened
      have closes := opened (after.journal ++ [⟨.debug, "Engine session opened"⟩])
      simp only [outcome] at closes ⊢
      cases ended : body ⟨(after.world, handle),
          after.journal ++ [⟨.debug, "Engine session opened"⟩]⟩ with
      | ok value left =>
          simp only [ended] at closes
          exact closes left.journal
      | error error left =>
          simp only [ended] at closes
          exact closes left.journal

/-- Trying again keeps the promise, if what an attempt needs may depend on how many more there
can be. -/
theorem attempt_counted {policy : RetryPolicy} {operation : Act World EngineError Result}
    {promise : Except EngineError Result → World → Prop} (ready : Nat → World → Prop)
    (tries : ∀ spare world, ready spare world →
      operation.Ensures world (Passes ready promise spare))
    (spare : Nat) (before : World) (isReady : ready spare before) :
    (Retry.attempt policy Retry.warn operation spare).Ensures before promise := by
  induction spare generalizing before with
  | zero =>
      refine (tries 0 before isReady).mono fun result after kept => ?_
      cases result with
      | ok value => exact kept
      | error error => exact kept
  | succ spare ih =>
      intro journal
      have tried := tries (spare + 1) before isReady journal
      simp only [outcome] at tried ⊢
      cases ran : operation ⟨before, journal⟩ with
      | ok value after =>
          rw [ran] at tried
          rw [Retry.attempt_of_ok ran]
          exact tried
      | error error after =>
          rw [ran] at tried
          simp only [Passes] at tried
          by_cases passing : error.isRetryable = true
          · rw [if_pos passing] at tried
            rw [Retry.attempt_of_passing ran passing]
            exact ih after.world tried _
          · rw [if_neg passing] at tried
            rw [Retry.attempt_of_lasting ran passing]
            exact tried

/-- Trying again keeps a promise that each attempt keeps, as long as a failed attempt leaves
what the next one needs. -/
theorem attempt {policy : RetryPolicy} {operation : Act World EngineError Result}
    {promise : Except EngineError Result → World → Prop} (ready : World → Prop)
    (tries : ∀ world, ready world → operation.Ensures world fun result after =>
      promise result after ∧ ∀ error, result = .error error → ready after)
    (spare : Nat) (before : World) (isReady : ready before) :
    (Retry.attempt policy Retry.warn operation spare).Ensures before promise := by
  refine attempt_counted (fun _ => ready) ?_ spare before isReady
  intro spare world holds
  refine (tries world holds).mono fun result after kept => .of_promise kept.1 ?_
  exact fun error _ failed _ _ => kept.2 error failed

end Ensures

end PackageProvider.Act
