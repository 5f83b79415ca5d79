import PackageProvider.Proofs.Dnf.Complaint
import PackageProvider.Proofs.Dnf.Runs
import PackageProvider.Proofs.Execution
import PackageProvider.Proofs.Plan

set_option autoImplicit false

/-! What converging does on the machine, whatever the machine answers: a run of dnf lists what is
installed, then one resolves the goal and changes nothing, and only then, if something is to be
changed, come the downloads and the run that changes it. Before each run for the goal its script is
saved, the same every time, and a script that cannot be saved ends it all. -/

namespace PackageProvider

def Plan.goal (plan : Plan) : List Directive := plan.intents.map Intent.directive

namespace Dnf

open Act (Ensures)

/-- The downloads of what is to be installed, if there is anything: they are tried again after
errors that may pass, `limit` times at most, and the last one decides. -/
inductive Fetched (options : Options) (program : String) (goal : List Directive) (limit : Nat)
    (builds : List Build) : List Event → Except EngineError Unit → Prop where
  | unneeded (none : builds = []) : Fetched options program goal limit builds [] (.ok ())
  | tried (some : builds ≠ []) (failed : List Delivery) (last : Delivery)
      (within : failed.length < limit)
      (passing : ∀ delivery ∈ failed, ∃ error,
        delivery.output program >>= completed = .error error ∧ error.isRetryable = true) :
      Fetched options program goal limit builds
        ((failed ++ [last]).flatMap (options.delivery program ["-y", "--downloadonly"] goal))
        (last.output program >>= completed)

inductive Worked (options : Options) (program : String) (plan : Plan) (run : RunOptions) :
    List Event → Except EngineError Transaction → Prop where
  | nothing (settled : plan.intents = []) : Worked options program plan run [] (.ok {})
  | unresolved (some : plan.intents ≠ []) (delivery : Delivery) {error : EngineError}
      (reads : delivery.output program >>= resolved = .error error) :
      Worked options program plan run
        (options.delivery program ["--assumeno"] plan.goal delivery) (.error error)
  | rests (some : plan.intents ≠ []) (delivery : Delivery) {transaction : Transaction}
      (reads : delivery.output program >>= resolved = .ok transaction)
      (idle : run.noop = true ∨ transaction.isEmpty = true) :
      Worked options program plan run
        (options.delivery program ["--assumeno"] plan.goal delivery) (.ok transaction)
  | unfetched (some : plan.intents ≠ []) (delivery : Delivery) {transaction : Transaction}
      (reads : delivery.output program >>= resolved = .ok transaction)
      (acts : run.noop = false) (full : transaction.isEmpty = false) {downloads : List Event}
      {error : EngineError}
      (fetched : Fetched options program plan.goal run.retry.limit transaction.installs downloads
        (.error error)) :
      Worked options program plan run
        (options.delivery program ["--assumeno"] plan.goal delivery ++ downloads) (.error error)
  | applied (some : plan.intents ≠ []) (delivery : Delivery) {transaction : Transaction}
      (reads : delivery.output program >>= resolved = .ok transaction)
      (acts : run.noop = false) (full : transaction.isEmpty = false) {downloads : List Event}
      (fetched : Fetched options program plan.goal run.retry.limit transaction.installs downloads
        (.ok ())) (last : Delivery) :
      Worked options program plan run
        (options.delivery program ["--assumeno"] plan.goal delivery ++
          (downloads ++ options.delivery program ["-y"] plan.goal last))
        ((last.output program >>= completed).map fun _ => transaction)

inductive Converged (options : Options) (program : String) (items : List DesiredItem)
    (run : RunOptions) : List Event → Except ConvergeError (List Change) → Prop where
  | refused (nul : ¬ Plain (options.extraArguments ++ items.map DesiredItem.name)) :
      Converged options program items run []
        (.error (.engine (.commandFailed ("failed to execute " ++ program)
          "nul byte found in provided data")))
  | unlisted (plain : Plain (options.extraArguments ++ items.map DesiredItem.name))
      (answer : Except String Output) {error : EngineError}
      (reads : launched program answer >>= listed = .error error) :
      Converged options program items run
        [.ran (options.listing program (items.map DesiredItem.name)) answer]
        (.error (.engine error))
  | listed (plain : Plain (options.extraArguments ++ items.map DesiredItem.name))
      (answer : Except String Output) {reported : List Build}
      (reads : launched program answer >>= listed = .ok reported) {events : List Event}
      {result : Except EngineError Transaction}
      (worked : Worked options program (Plan.ofReport reported items) run events result) :
      Converged options program items run
        (.ran (options.listing program (items.map DesiredItem.name)) answer :: events)
        ((result.mapError ConvergeError.engine).map fun transaction =>
          report transaction (items.map DesiredItem.name) (Plan.ofReport reported items).baseline)

variable {World : Type} (host : Host World) {options : Options}
  (before : Witnessed World × Handle)

section Working

variable (extra : Plain options.extraArguments)
  (isOpen : before.2.isClosed = false)

include extra isOpen

theorem downloads_make (retry : RetryPolicy) {builds : List Build} (some : builds ≠ []) :
    Makes (Retry.run retry Retry.warn ((engine host.witnessed options).download builds))
      (Fetched options before.2.program before.2.goal retry.limit builds) before := by
  have positive : 0 < retry.limit := Nat.lt_of_lt_of_le Nat.zero_lt_one (Nat.le_max_right _ _)
  -- What there is before an attempt: the failed ones so far, each with an error that may pass.
  refine Ensures.attempt_counted (fun spare world => world.2 = before.2 ∧ ∃ failed,
    failed.length + spare + 1 = retry.limit ∧
      (∀ delivery ∈ failed, ∃ error,
        delivery.output before.2.program >>= completed = .error error ∧
          error.isRetryable = true) ∧
      world.1.events = before.1.events ++ failed.flatMap
        (options.delivery before.2.program ["-y", "--downloadonly"] before.2.goal))
    ?_ _ _ ⟨rfl, [], by simp; omega, nofun, (List.append_nil _).symm⟩
  rintro spare ⟨middle, _⟩ ⟨rfl, failed, count, passing, recorded⟩
  have attempt := download_asks host (middle, before.2) extra isOpen some
  refine (Makes.ensures attempt).mono fun result after kept => ?_
  obtain ⟨sameHandle, _, added, delivery, rfl, reads⟩ := kept
  have all : after.1.events = before.1.events ++ (failed ++ [delivery]).flatMap
      (options.delivery before.2.program ["-y", "--downloadonly"] before.2.goal) := by
    rw [added, recorded, List.flatMap_append, List.flatMap_singleton, List.append_assoc]
  refine .of_promise ⟨sameHandle, _, all, ?_⟩ ?_
  · rw [reads]
    exact .tried some failed delivery (by omega) passing
  · intro error left same retryable counted
    refine ⟨sameHandle, failed ++ [delivery], ?_, ?_, all⟩
    · simp only [List.length_append, List.length_singleton]
      omega
    · intro other member
      rcases List.mem_append.mp member with earlier | last
      · exact passing other earlier
      · rw [List.mem_singleton.mp last]
        exact ⟨error, reads.symm.trans same, retryable⟩

theorem perform_makes {transaction : Transaction} (full : transaction.isEmpty = false) :
    Makes ((engine host.witnessed options).perform transaction)
      (fun events result => ∃ last : Delivery,
        events = options.delivery before.2.program ["-y"] before.2.goal last ∧
          result = last.output before.2.program >>= completed) before := by
  refine Makes.bind (apply_asks host before extra isOpen full) ?_ fun _ _ failed => failed
  rintro _ value ⟨last, rfl, reads⟩ after -
  refine Makes.note ?_
  exact ⟨last, List.append_nil _, reads⟩

theorem carryOut_makes {transaction : Transaction} (full : transaction.isEmpty = false)
    (retry : RetryPolicy) :
    Makes ((engine host.witnessed options).carryOut transaction retry)
      (fun events result =>
        (∃ error, result = .error error ∧
          Fetched options before.2.program before.2.goal retry.limit transaction.installs events
            (.error error)) ∨
        ∃ downloads, ∃ last : Delivery,
          Fetched options before.2.program before.2.goal retry.limit transaction.installs
              downloads (.ok ()) ∧
            events = downloads ++ options.delivery before.2.program ["-y"] before.2.goal last ∧
            result = last.output before.2.program >>= completed) before := by
  by_cases none : transaction.installs = []
  · rw [Engine.carryOut_of_no_installs _ none]
    refine (perform_makes host before extra isOpen full).mono fun events result performed => ?_
    obtain ⟨last, same, reads⟩ := performed
    exact .inr ⟨[], last, .unneeded none, same, reads⟩
  · rw [Engine.carryOut_of_installs _ none]
    refine (downloads_make host before extra isOpen retry none).bind ?_ ?_
    · intro downloads value fetched after sameHandle
      have performs := perform_makes host after extra (by rwa [sameHandle]) full
      refine performs.mono fun events result performed => ?_
      obtain ⟨last, same, reads⟩ := performed
      rw [sameHandle] at same reads
      exact .inr ⟨downloads, last, fetched, by rw [same], reads⟩
    · exact fun downloads error fetched => .inl ⟨error, rfl, fetched⟩

theorem conclude_makes {plan : Plan} (some : plan.intents ≠ []) (goal : before.2.goal = plan.goal)
    (run : RunOptions) {delivery : Delivery} {transaction : Transaction}
    (reads : delivery.output before.2.program >>= resolved = .ok transaction) :
    Makes ((engine host.witnessed options).conclude run transaction)
      (fun events result => Worked options before.2.program plan run
        (options.delivery before.2.program ["--assumeno"] plan.goal delivery ++ events) result)
      before := by
  have rests (idle : run.noop = true ∨ transaction.isEmpty = true) :
      Worked options before.2.program plan run
        (options.delivery before.2.program ["--assumeno"] plan.goal delivery ++ [])
        (.ok transaction) := by
    rw [List.append_nil]
    exact .rests some delivery reads idle
  refine .note_then ?_
  cases acts : run.noop with
  | true => exact .note_then (.pure (rests (.inl acts)))
  | false =>
      cases full : transaction.isEmpty with
      | true => exact .pure (rests (.inr full))
      | false =>
          refine (carryOut_makes host before extra isOpen full run.retry).bind ?_ ?_
          · rintro _ value (⟨_, other, -⟩ | ⟨downloads, last, fetched, rfl, completes⟩) after -
            · cases other
            · refine .pure ?_
              rw [goal] at fetched ⊢
              have applied := Worked.applied some delivery reads acts full fetched last
              rw [← completes] at applied
              rwa [List.append_nil]
          · rintro _ error (⟨other, same, fetched⟩ | ⟨downloads, last, fetched, rfl, fails⟩)
            · cases same
              rw [goal] at fetched
              exact .unfetched some delivery reads acts full fetched
            · rw [goal] at fetched ⊢
              have applied := Worked.applied some delivery reads acts full fetched last
              rwa [← fails] at applied

end Working

theorem submit_ensures (directive : Directive) (isOpen : before.2.isClosed = false) :
    ((engine host.witnessed options).submit directive).Ensures before fun result after =>
      result = .ok () ∧
        after = (before.1, { before.2 with goal := before.2.goal ++ [directive] }) := by
  intro journal
  have opens := openedHandle_apply ⟨before, journal⟩ isOpen
  simp [Act.outcome, engine, submit, opens, Act.note_apply]

theorem submits_ensure (intents : List Intent) (isOpen : before.2.isClosed = false) :
    (intents.forM fun intent =>
        (engine host.witnessed options).submit intent.directive).Ensures before
      fun result after =>
        result = .ok () ∧ after =
          (before.1, { before.2 with goal := before.2.goal ++ intents.map Intent.directive }) := by
  induction intents generalizing before with
  | nil =>
      refine .pure ⟨rfl, ?_⟩
      rw [List.map_nil, List.append_nil]
  | cons intent rest ih =>
      refine .andThen (submit_ensures host before intent.directive isOpen) ?_ ?_
      · rintro _ _ ⟨-, rfl⟩
        have onward :=
          ih (before.1, { before.2 with goal := before.2.goal ++ [intent.directive] }) isOpen
        refine onward.mono fun result after kept => ?_
        obtain ⟨passed, same⟩ := kept
        refine ⟨passed, ?_⟩
        rw [same, List.map_cons, List.append_assoc, List.singleton_append]
      · rintro _ _ ⟨passed, -⟩
        cases passed

theorem execute_works (extra : Plain options.extraArguments)
    (program : String) (plan : Plan) (run : RunOptions) (witnessed : Witnessed World) :
    ((engine host.witnessed options).execute plan.intents run).Ensures (witnessed, { program })
      fun result after => ∃ events, after.1.events = witnessed.events ++ events ∧
        Worked options program plan run events result := by
  by_cases settled : plan.intents = []
  · rw [settled, Engine.execute_nil]
    exact .pure ⟨[], (List.append_nil _).symm, .nothing settled⟩
  · obtain ⟨intent, rest, intents⟩ := List.exists_cons_of_ne_nil settled
    rw [intents, Engine.execute_cons, ← intents, Engine.gather, bind_assoc]
    refine .andThen (submits_ensure host _ plan.intents rfl) ?_ ?_
    · rintro _ _ ⟨-, rfl⟩
      -- The session is new, so the goal of its handle is what the plan asks for and no more.
      have some : plan.goal ≠ [] := fun none => settled (List.map_eq_nil_iff.mp none)
      have works : Makes ((engine host.witnessed options).resolve >>=
          (engine host.witnessed options).conclude run)
          (Worked options program plan run) (witnessed, { program, goal := plan.goal }) := by
        refine Makes.bind (resolve_asks host _ extra rfl some) ?_ ?_
        · rintro _ transaction ⟨delivery, rfl, reads⟩ ⟨after, _⟩ rfl
          exact conclude_makes host _ extra rfl settled rfl run reads.symm
        · rintro _ error ⟨delivery, rfl, reads⟩
          exact .unresolved settled delivery reads.symm
      refine works.ensures.mono fun result after kept => ?_
      obtain ⟨-, events, recorded, worked⟩ := kept
      exact ⟨events, recorded, worked⟩
    · rintro _ _ ⟨passed, -⟩
      cases passed

/-! ### Converging -/

theorem converge_body_works {items : List DesiredItem}
    (supported : ∀ item ∈ items, item.ensure ≠ .held) (program : String) (run : RunOptions)
    (witnessed : Witnessed World) :
    (do
      let plan ← (engine host.witnessed options).plan items
      let transaction ← ((engine host.witnessed options).execute plan.intents run).mapFailure
        ConvergeError.engine
      return report transaction (items.map DesiredItem.name) plan.baseline).Ensures
      (witnessed, { program }) fun result after =>
        ∃ events, after.1.events = witnessed.events ++ events ∧
          Converged options program items run events result := by
  by_cases plain : Plain (options.extraArguments ++ items.map DesiredItem.name)
  · have extra : Plain options.extraArguments := (plain_append.mp plain).1
    have lists := installed_asks host (witnessed, { program }) plain rfl
    refine .andThen (plan_ensures_report supported (Makes.ensures lists)) ?_ ?_
    · rintro plan ⟨after, _⟩ ⟨reported, ⟨rfl, _, recorded, answer, rfl, reads⟩, rfl⟩
      have continued (more : List Event) : after.events ++ more = witnessed.events ++
          .ran (options.listing program (items.map DesiredItem.name)) answer :: more := by
        rw [recorded, List.append_assoc, List.singleton_append]
      refine .andThen (.mapFailure (execute_works host extra program _ run after)) ?_ ?_
      · rintro transaction left ⟨events, further, worked⟩
        exact .pure ⟨_, further.trans (continued events), .listed plain answer reads.symm worked⟩
      · rintro _ left ⟨error, rfl, events, further, worked⟩
        exact ⟨_, further.trans (continued events), .listed plain answer reads.symm worked⟩
    · rintro _ after ⟨cause, rfl, -, _, recorded, answer, rfl, reads⟩
      exact ⟨_, recorded, .unlisted plain answer reads.symm⟩
  · have refuses := installed_of_not_plain host (witnessed, { program }) plain rfl
    refine .andThen (plan_ensures_report supported refuses) ?_ ?_
    · rintro plan after ⟨reported, ⟨-, other⟩, -⟩
      cases other
    · rintro _ after ⟨cause, rfl, same, refused⟩
      cases refused
      rw [same]
      exact ⟨[], (List.append_nil _).symm, .refused plain⟩

theorem converge_works {program : String} (found : host.find? options.binary = some program)
    {items : List DesiredItem} (supported : ∀ item ∈ items, item.ensure ≠ .held) (run : RunOptions)
    (witnessed : Witnessed World) :
    ((engine host.witnessed options).converge items run).Ensures witnessed fun result after =>
      ∃ events, after.events = witnessed.events ++ events ∧
        Converged options program items run events result := by
  refine .andThen (requireSupported_ensures items witnessed) ?_ ?_
  · intro _ after kept
    rw [kept.1]
    refine .inSession fun journal => ?_
    have finds : host.witnessed.find? options.binary = some program := found
    simp only [Act.outcome, engine, openHandle, finds, Act.bind_apply, Act.note_apply,
      Act.pure_apply]
    refine Ensures.mono (converge_body_works host supported program run witnessed) ?_
    exact fun _ _ kept _ => kept
  · rintro _ _ ⟨-, ⟨passed, -⟩ | ⟨-, item, member, held⟩⟩
    · cases passed
    · exact (supported item member held).elim

/-! ### Complaints -/

theorem resolved_of_complains {output : Output} (complains : Complains output.errText) :
    ∃ error, resolved output = .error error := by
  obtain ⟨error, fails⟩ := goalFailure?_of_complains complains
  exact ⟨error, by rw [resolved, fails]⟩

/-- Where a script was saved and run, the delivery is that run and nothing else. -/
theorem delivery_append_eq {program : String} {flags : List String} {goal : List Directive}
    {delivery : Delivery} {more rest : List Event} {text : String} {invocation : Invocation}
    {answer : Except String Output}
    (same : options.delivery program flags goal delivery ++ more =
      .saved text (.ok ()) :: .ran invocation answer :: rest) :
    delivery = .ran answer ∧ more = rest := by
  cases delivery with
  | unsaved reason => cases same
  | ran other =>
      cases same
      exact ⟨rfl, rfl⟩

theorem Worked.of_complains {program : String} {plan : Plan} {run : RunOptions}
    {events : List Event} {result : Except EngineError Transaction}
    (worked : Worked options program plan run events result) {text : String}
    {invocation : Invocation} {output : Output} {rest : List Event}
    (shape : events = .saved text (.ok ()) :: .ran invocation (.ok output) :: rest)
    (complains : Complains output.errText) : rest = [] ∧ ∃ error, result = .error error := by
  obtain ⟨error, fails⟩ := resolved_of_complains complains
  -- Every way but the first begins with the delivery of the goal, which the shape makes this run.
  cases worked with
  | nothing => cases shape
  | unresolved some delivery reads =>
      rw [← List.append_nil (options.delivery _ _ _ _)] at shape
      exact ⟨(delivery_append_eq shape).2.symm, _, rfl⟩
  | rests some delivery reads =>
      rw [← List.append_nil (options.delivery _ _ _ _)] at shape
      obtain ⟨rfl, -⟩ := delivery_append_eq shape
      cases reads.symm.trans fails
  | unfetched some delivery reads =>
      obtain ⟨rfl, -⟩ := delivery_append_eq shape
      cases reads.symm.trans fails
  | applied some delivery reads =>
      obtain ⟨rfl, -⟩ := delivery_append_eq shape
      cases reads.symm.trans fails

/-- A complaint about the goal is the end of it, whatever else was printed and however the
program exited. -/
theorem Converged.of_complains {program : String} {items : List DesiredItem} {run : RunOptions}
    {first : Event} {text : String} {invocation : Invocation} {output : Output} {rest : List Event}
    {result : Except ConvergeError (List Change)}
    (converged : Converged options program items run
      (first :: .saved text (.ok ()) :: .ran invocation (.ok output) :: rest) result)
    (complains : Complains output.errText) : rest = [] ∧ ∃ error, result = .error error := by
  cases converged with
  | listed plain answer reads worked =>
      obtain ⟨none, error, rfl⟩ := worked.of_complains rfl complains
      exact ⟨none, _, rfl⟩

/-- Whatever the machine answers, converging does on it what is described, and once a line of what
the goal amounts to is complained about, nothing more is done and converging fails. -/
theorem converge_runs {World : Type} (host : Host World) {options : Options} {program : String}
    (found : host.find? options.binary = some program) {items : List DesiredItem}
    (supported : ∀ item ∈ items, item.ensure ≠ .held) (run : RunOptions) (world : World)
    (journal : List JournalEntry) :
    let ran := ((engine host.witnessed options).converge items run).outcome ⟨⟨world, []⟩, journal⟩
    Converged options program items run ran.2.world.events ran.1 ∧
      ∀ first text invocation output rest,
        ran.2.world.events = first :: .saved text (.ok ()) :: .ran invocation (.ok output) :: rest →
          Complains output.errText → rest = [] ∧ ∃ error, ran.1 = .error error := by
  intro ran
  obtain ⟨events, recorded, converged⟩ :=
    converge_works host found supported run ⟨world, []⟩ journal
  have all : ran.2.world.events = events := recorded
  have follows : Converged options program items run ran.2.world.events ran.1 := by
    rw [all]
    exact converged
  refine ⟨follows, fun first text invocation output rest shape complains => ?_⟩
  rw [shape] at follows
  exact follows.of_complains complains

def prompted : Host (List Output) where
  isFile := fun _ => true
  searchPath := some ["/usr/bin"]
  launch := fun _ answers =>
    match answers with
    | [] => (.error "no answer left", [])
    | first :: rest => (.ok first, rest)

def printed (exitCode : Int) (out err : String) : Output where
  exitCode := exitCode
  out := out.toList.map fun c => c.toNat.toUInt8
  err := err.toList.map fun c => c.toNat.toUInt8

def treeAnswers : List Output :=
  [printed 0 "" "", printed 1 "Installing:\n tree x86_64 2.1.0-1 fedora 55k\n" "Operation aborted.",
    printed 1 "" "Curl error (28)", printed 0 "" "", printed 0 "" ""]

def treeRun : Except ConvergeError (List Change) × Journaled (Witnessed (List Output)) :=
  ((engine prompted.witnessed {}).converge [⟨"tree", .present⟩] {}).outcome ⟨⟨treeAnswers, []⟩, []⟩

theorem treeRun_runs :
    prompted.find? ({} : Options).binary = some "/usr/bin/dnf" ∧
      Converged {} "/usr/bin/dnf" [⟨"tree", .present⟩] {} treeRun.2.world.events treeRun.1 ∧
      ((treeRun.2.world.events.filterMap Event.invocation?).drop 1).map Invocation.arguments =
        [["--assumeno", "shell"], ["-y", "--downloadonly", "shell"],
          ["-y", "--downloadonly", "shell"], ["-y", "shell"]] := by
  have found : prompted.find? ({} : Options).binary = some "/usr/bin/dnf" := by
    decide +kernel
  have supported : ∀ item ∈ [(⟨"tree", .present⟩ : DesiredItem)], item.ensure ≠ .held := by
    decide
  have runs := converge_runs prompted found supported {} treeAnswers []
  exact ⟨found, runs.1, by decide +kernel⟩

/-- No program can be given a NUL character, so a name with one is not even looked up. -/
theorem nul_runs_nothing :
    let items : List DesiredItem := [⟨"tree\x00", .absent⟩]
    let ran := ((engine prompted.witnessed {}).converge items {}).outcome
      ⟨⟨[printed 0 "" ""], []⟩, []⟩
    prompted.find? ({} : Options).binary = some "/usr/bin/dnf" ∧
      (∀ item ∈ items, item.ensure ≠ .held) ∧
      ¬ ∃ answer rest, ran.2.world.events =
        .ran (Options.listing {} "/usr/bin/dnf" (items.map DesiredItem.name)) answer :: rest := by
  intro items ran
  refine ⟨by decide +kernel, by decide, ?_⟩
  have none : ran.2.world.events.length = 0 := by
    decide +kernel
  rintro ⟨answer, rest, events⟩
  rw [events] at none
  cases none

end Dnf

end PackageProvider
