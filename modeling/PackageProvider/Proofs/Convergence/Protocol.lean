import PackageProvider.Proofs.Recorded

set_option autoImplicit false

/-! The calls that executing intents makes on an engine, whatever the engine answers: first
all submissions, then one resolution, then the downloads of what is to be installed, and at
last the transaction is applied. The first call that fails is the last one, but for downloads
that are tried again. -/

namespace PackageProvider

open Recorded (Makes Mirrors)

/-- Calls that are tried again after errors that may pass, `limit` times at most. Only the
last one can have another answer, and if its error may pass as well there was none left. -/
inductive Tried {Result : Type} (call : Except EngineError Result → Call) (limit : Nat) :
    List Call → Except EngineError Result → Prop where
  | after (failures : List EngineError) (answer : Except EngineError Result)
      (within : failures.length < limit)
      (passing : ∀ error ∈ failures, error.isRetryable = true)
      (final : ∀ error, answer = .error error → error.isRetryable = true →
        failures.length + 1 = limit) :
      Tried call limit (failures.map (fun error => call (.error error)) ++ [call answer]) answer

inductive Fetched (limit : Nat) (builds : List Build) :
    List Call → Except EngineError Unit → Prop where
  | unneeded (none : builds = []) : Fetched limit builds [] (.ok ())
  | tried {calls : List Call} {answer : Except EngineError Unit} (some : builds ≠ [])
      (tried : Tried (.downloaded builds) limit calls answer) : Fetched limit builds calls answer

def submissions (intents : List Intent) : List Call :=
  intents.map fun intent => .submitted intent.directive (.ok ())

inductive Submitted (intents : List Intent) : List Call → Except EngineError Unit → Prop where
  | all : Submitted intents (submissions intents) (.ok ())
  | refused (taken rest : List Intent) (intent : Intent) (error : EngineError)
      (split : intents = taken ++ intent :: rest) :
      Submitted intents (submissions taken ++ [.submitted intent.directive (.error error)])
        (.error error)

/-- The calls that executing the intents makes and what it comes to. -/
inductive Executed (intents : List Intent) (options : RunOptions) :
    List Call → Except EngineError Transaction → Prop where
  | nothing (none : intents = []) : Executed intents options [] (.ok {})
  | refused {calls : List Call} {error : EngineError}
      (submitted : Submitted intents calls (.error error)) :
      Executed intents options calls (.error error)
  | unresolved {error : EngineError} (some : intents ≠ []) :
      Executed intents options (submissions intents ++ [.resolved (.error error)]) (.error error)
  | rests {transaction : Transaction} (some : intents ≠ [])
      (idle : options.noop = true ∨ transaction.isEmpty = true) :
      Executed intents options (submissions intents ++ [.resolved (.ok transaction)])
        (.ok transaction)
  | unfetched {transaction : Transaction} {downloads : List Call} {error : EngineError}
      (some : intents ≠ []) (acts : options.noop = false) (full : transaction.isEmpty = false)
      (fetched : Fetched options.retry.limit transaction.installs downloads (.error error)) :
      Executed intents options
        (submissions intents ++ [.resolved (.ok transaction)] ++ downloads) (.error error)
  | applied {transaction : Transaction} {downloads : List Call} {answer : Except EngineError Unit}
      (some : intents ≠ []) (acts : options.noop = false) (full : transaction.isEmpty = false)
      (fetched : Fetched options.retry.limit transaction.installs downloads (.ok ())) :
      Executed intents options
        (submissions intents ++ [.resolved (.ok transaction)] ++ downloads
          ++ [.applied transaction answer])
        (answer.map fun _ => transaction)

variable {World Handle : Type} (engine : Engine World Handle)

/-! ### The record is that of the plain run -/

theorem perform_mirrors (transaction : Transaction) :
    Mirrors (engine.recorded.perform transaction) (engine.perform transaction) :=
  .bind (.calling _ _) fun _ => .note _ _

theorem carryOut_mirrors (transaction : Transaction) (retry : RetryPolicy) :
    Mirrors (engine.recorded.carryOut transaction retry) (engine.carryOut transaction retry) := by
  by_cases none : transaction.installs = []
  · rw [Engine.carryOut_of_no_installs _ none, Engine.carryOut_of_no_installs _ none]
    exact perform_mirrors engine transaction
  · rw [Engine.carryOut_of_installs _ none, Engine.carryOut_of_installs _ none]
    exact .bind (.attempt (.calling _ _) _ _) fun _ => perform_mirrors engine transaction

theorem conclude_mirrors (options : RunOptions) (transaction : Transaction) :
    Mirrors (engine.recorded.conclude options transaction)
      (engine.conclude options transaction) := by
  refine .bind (.note _ _) fun _ => ?_
  cases options.noop with
  | true => exact .bind (.note _ _) fun _ => .pure _
  | false =>
      cases transaction.isEmpty with
      | true => exact .pure _
      | false => exact .bind (carryOut_mirrors engine transaction options.retry) fun _ => .pure _

theorem execute_mirrors (intents : List Intent) (options : RunOptions) :
    Mirrors (engine.recorded.execute intents options) (engine.execute intents options) := by
  cases intents with
  | nil => exact .pure _
  | cons intent rest =>
      rw [Engine.execute_cons, Engine.execute_cons]
      refine .bind ?_ (conclude_mirrors engine options)
      exact .bind (.forM (fun _ => .calling _ _) _) fun _ => .calling _ _

/-! ### The calls of the parts -/

theorem Tried.once {Result : Type} {call : Except EngineError Result → Call} {limit : Nat}
    (answer : Except EngineError Result) (positive : 0 < limit)
    (final : ∀ error, answer = .error error → error.isRetryable = true → limit = 1) :
    Tried call limit [call answer] answer :=
  .after [] answer positive (fun _ impossible => nomatch impossible) fun error failed passing =>
    (final error failed passing).symm

theorem Tried.again {Result : Type} {call : Except EngineError Result → Call} {limit : Nat}
    {calls : List Call} {answer : Except EngineError Result} {error : EngineError}
    (passing : error.isRetryable = true) (tried : Tried call limit calls answer) :
    Tried call (limit + 1) (call (.error error) :: calls) answer := by
  obtain ⟨failures, _, within, others, final⟩ := tried
  refine .after (error :: failures) answer (Nat.succ_lt_succ within) ?_ ?_
  · exact List.forall_mem_cons.mpr ⟨passing, others⟩
  · exact fun last failed again => congrArg Nat.succ (final last failed again)

theorem attempt_makes {Result : Type} {call : Except EngineError Result → Call}
    {operation : Act (Recorded World × Handle) EngineError Result}
    (makes : Makes operation fun calls answer => calls = [call answer]) (policy : RetryPolicy)
    (spare : Nat) :
    Makes (Retry.attempt policy Retry.warn operation spare) (Tried call (spare + 1)) := by
  induction spare with
  | zero =>
      refine makes.mono fun calls answer single => ?_
      rw [single]
      exact .once answer Nat.zero_lt_one fun _ _ _ => rfl
  | succ spare ih =>
      intro state
      obtain ⟨calls, made, single⟩ := makes state
      simp only [Act.outcome] at made single ⊢
      cases ran : operation state with
      | ok value after =>
          rw [ran] at made single
          rw [Retry.attempt_of_ok ran]
          refine ⟨calls, made, ?_⟩
          rw [single]
          refine .once _ (Nat.zero_lt_succ _) fun _ other => ?_
          cases other
      | error error after =>
          rw [ran] at made single
          by_cases passing : error.isRetryable = true
          · rw [Retry.attempt_of_passing ran passing]
            obtain ⟨more, further, tried⟩ := ih { after with journal := _ }
            refine ⟨calls ++ more, ?_, ?_⟩
            · rw [← List.append_assoc, ← made]
              exact further
            · rw [single]
              exact tried.again passing
          · rw [Retry.attempt_of_lasting ran passing]
            refine ⟨calls, made, ?_⟩
            rw [single]
            refine .once _ (Nat.zero_lt_succ _) fun other same retryable => ?_
            cases same
            exact (passing retryable).elim

theorem submits_makes (intents : List Intent) :
    Makes (intents.forM fun intent => engine.recorded.submit intent.directive)
      (Submitted intents) := by
  induction intents with
  | nil => exact .pure .all
  | cons intent rest ih =>
      refine (Makes.calling (.submitted intent.directive) (engine.submit intent.directive)).bind
        ?_ ?_
      · intro calls value single
        rw [single]
        refine ih.mono fun more result submitted => ?_
        cases submitted with
        | all => exact .all
        | refused taken others last error split =>
            exact .refused (intent :: taken) others last error (congrArg (intent :: ·) split)
      · intro calls error single
        rw [single]
        exact .refused [] rest intent error rfl

theorem perform_makes (transaction : Transaction) :
    Makes (engine.recorded.perform transaction) fun calls result =>
      calls = [.applied transaction result] := by
  refine (Makes.calling (.applied transaction) (engine.apply transaction)).bind ?_ ?_
  · intro calls value single
    refine .note ?_
    rw [single, List.append_nil]
  · exact fun calls error single => single

theorem download_makes (transaction : Transaction) (retry : RetryPolicy) :
    Makes (Retry.run retry Retry.warn (engine.recorded.download transaction.installs))
      (Tried (.downloaded transaction.installs) retry.limit) := by
  have limit : retry.limit - 1 + 1 = retry.limit := Nat.sub_add_cancel (Nat.le_max_right _ _)
  rw [Retry.run, ← limit]
  exact attempt_makes (.calling _ _) retry (retry.limit - 1)

theorem carryOut_makes (transaction : Transaction) (retry : RetryPolicy) :
    Makes (engine.recorded.carryOut transaction retry) fun calls result =>
      (∃ error, result = .error error ∧
        Fetched retry.limit transaction.installs calls (.error error)) ∨
      ∃ downloads, Fetched retry.limit transaction.installs downloads (.ok ()) ∧
        calls = downloads ++ [.applied transaction result] := by
  by_cases none : transaction.installs = []
  · rw [Engine.carryOut_of_no_installs _ none]
    refine (perform_makes engine transaction).mono fun calls result single => ?_
    exact .inr ⟨[], .unneeded none, single⟩
  · rw [Engine.carryOut_of_installs _ none]
    refine (download_makes engine transaction retry).bind ?_ ?_
    · intro calls value tried
      refine (perform_makes engine transaction).mono fun more result single => ?_
      rw [single]
      exact .inr ⟨calls, .tried none tried, rfl⟩
    · exact fun calls error tried => .inl ⟨error, rfl, .tried none tried⟩

theorem Submitted.all_of_ok {intents : List Intent} {calls : List Call} {value : Unit}
    (submitted : Submitted intents calls (.ok value)) : calls = submissions intents := by
  cases submitted with
  | all => rfl

theorem conclude_makes (intents : List Intent) (some : intents ≠ []) (options : RunOptions)
    (transaction : Transaction) :
    Makes (engine.recorded.conclude options transaction) fun calls result =>
      Executed intents options (submissions intents ++ [.resolved (.ok transaction)] ++ calls)
        result := by
  refine .note_then ?_
  cases acts : options.noop with
  | true =>
      refine .note_then (.pure ?_)
      rw [List.append_nil]
      exact .rests some (.inl acts)
  | false =>
      cases full : transaction.isEmpty with
      | true =>
          refine .pure ?_
          rw [List.append_nil]
          exact .rests some (.inr full)
      | false =>
          refine (carryOut_makes engine transaction options.retry).bind ?_ ?_
          · rintro calls value (⟨error, other, -⟩ | ⟨downloads, fetched, rfl⟩)
            · cases other
            · refine .pure ?_
              rw [List.append_nil, ← List.append_assoc]
              exact .applied some acts full fetched
          · rintro calls error (⟨other, same, fetched⟩ | ⟨downloads, fetched, rfl⟩)
            · cases same
              exact .unfetched some acts full fetched
            · rw [← List.append_assoc]
              exact .applied some acts full fetched

theorem execute_makes (intents : List Intent) (options : RunOptions) :
    Makes (engine.recorded.execute intents options) (Executed intents options) := by
  cases intents with
  | nil => exact .pure (.nothing rfl)
  | cons intent rest =>
      have some : intent :: rest ≠ [] := List.cons_ne_nil intent rest
      rw [Engine.execute_cons, Engine.gather, bind_assoc]
      refine (submits_makes engine (intent :: rest)).bind ?_ fun calls error => .refused
      intro calls value submitted
      rw [submitted.all_of_ok]
      refine (Makes.calling .resolved engine.resolve).bind ?_ ?_
      · intro more transaction single
        rw [single]
        simpa only [List.append_assoc] using conclude_makes engine _ some options transaction
      · intro more error single
        rw [single]
        exact .unresolved some

/-! ### What a run comes to -/

theorem Tried.last_error {builds : List Build} {limit : Nat} {calls : List Call}
    {answer : Except EngineError Unit} (tried : Tried (.downloaded builds) limit calls answer)
    (earlier : List Call) :
    (earlier ++ calls).getLast?.bind Call.error? = failure? answer := by
  cases tried
  rw [← List.append_assoc, List.getLast?_concat]
  rfl

theorem Executed.last_error {intents : List Intent} {options : RunOptions} {calls : List Call}
    {result : Except EngineError Transaction} (executed : Executed intents options calls result) :
    calls.getLast?.bind Call.error? = failure? result := by
  cases executed with
  | nothing => rfl
  | refused submitted =>
      cases submitted with
      | refused => rw [List.getLast?_concat]; rfl
  | unresolved => rw [List.getLast?_concat]; rfl
  | rests => rw [List.getLast?_concat]; rfl
  | unfetched some acts full fetched =>
      cases fetched with
      | tried some tried => exact tried.last_error _
  | @applied transaction downloads answer =>
      rw [List.getLast?_concat]
      cases answer <;> rfl

theorem conclude_noop_silent (retry : RetryPolicy) (transaction : Transaction) :
    Makes (engine.recorded.conclude { noop := true, retry } transaction)
      fun calls _ => calls = [] :=
  .note_then (.note_then (.pure rfl))

/-- A run in which nothing is to be changed makes the first calls of the one in which it is. -/
theorem execute_noop_prefix (intents : List Intent) (rehearsed retry : RetryPolicy)
    (state : Journaled (Recorded World × Handle)) :
    ((engine.recorded.execute intents { noop := true, retry := rehearsed }).outcome
        state).2.world.1.calls <+:
      ((engine.recorded.execute intents { noop := false, retry }).outcome
        state).2.world.1.calls := by
  cases intents with
  | nil => simp only [Engine.execute_nil, List.prefix_rfl]
  | cons intent rest =>
      rw [Engine.execute_cons, Engine.execute_cons]
      have noise := conclude_makes engine (intent :: rest) (List.cons_ne_nil intent rest)
        { noop := false, retry }
      exact Makes.prefix_bind (conclude_noop_silent engine rehearsed) noise state

/-- Whatever the engine answers: the calls of executing and what it comes to are as described,
an error is passed on as the last call gave it, a run without changes makes the first calls of
the one with changes, and the engine that keeps the record does what the one without does. -/
theorem execute_follows_protocol {World Handle : Type} (engine : Engine World Handle)
    (intents : List Intent) (options : RunOptions) (state : Journaled (World × Handle)) :
    let run (options : RunOptions) :=
      (engine.recorded.execute intents options).outcome (Recorded.start state)
    let calls (options : RunOptions) := (run options).2.world.1.calls
    Executed intents options (calls options) (run options).1 ∧
      failure? (run options).1 = (calls options).getLast?.bind Call.error? ∧
      calls { options with noop := true } <+: calls { options with noop := false } ∧
      (engine.execute intents options).outcome state =
        ((run options).1, Recorded.forget (run options).2) := by
  intro run calls
  obtain ⟨made, fresh, executed⟩ := execute_makes engine intents options (Recorded.start state)
  have all : calls options = made := fresh.trans (List.nil_append made)
  refine ⟨all ▸ executed, all ▸ executed.last_error.symm, ?_, ?_⟩
  · exact execute_noop_prefix engine intents options.retry options.retry (Recorded.start state)
  · exact (execute_mirrors engine intents options).outcome state

end PackageProvider
