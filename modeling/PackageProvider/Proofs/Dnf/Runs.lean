import PackageProvider.Dnf.Engine
import PackageProvider.Proofs.Act

set_option autoImplicit false

/-! Machines that keep a record of what is done on them, and what each call has done: a query is
one run, and a goal is handed over by saving its script and running the shell on it. What a call
answers is read off the machine's answers alone. -/

namespace PackageProvider.Dnf

open Act (Ensures)

inductive Event where
  | saved (text : String) (answer : Except String Unit)
  | ran (invocation : Invocation) (answer : Except String Output)

def Event.invocation? : Event → Option Invocation
  | saved .. => none
  | ran invocation _ => some invocation

structure Witnessed (World : Type) where
  world : World
  events : List Event := []

variable {World Error Answer Result Next : Type}

def Host.witnessed (host : Host World) : Host (Witnessed World) where
  isFile := host.isFile
  searchPath := host.searchPath
  launch := fun invocation witnessed =>
    let (answer, world) := host.launch invocation witnessed.world
    (answer, ⟨world, witnessed.events ++ [.ran invocation answer]⟩)
  save := fun text witnessed =>
    let (answer, world) := host.save text witnessed.world
    (answer, ⟨world, witnessed.events ++ [.saved text answer]⟩)

def Options.listing (options : Options) (program : String) (names : List String) : Invocation where
  program := program
  arguments := options.arguments
    (["-q", "repoquery", "--installed", "--queryformat", queryFormat, "--"] ++ names)
  script := none

def Options.shell (options : Options) (program : String) (flags : List String)
    (goal : List Directive) : Invocation where
  program := program
  arguments := options.arguments (flags ++ ["shell"])
  script := some (script goal)

/-- How handing a goal to the shell can go: there is no file for its script, or the shell is run
on one. -/
inductive Delivery where
  | unsaved (reason : String)
  | ran (answer : Except String Output)

def Options.delivery (options : Options) (program : String) (flags : List String)
    (goal : List Directive) : Delivery → List Event
  | .unsaved reason => [.saved (script goal) (.error reason)]
  | .ran answer => [.saved (script goal) (.ok ()), .ran (options.shell program flags goal) answer]

/-! ### What an answer is read as -/

def launched (program : String) (answer : Except String Output) : Except EngineError Output :=
  answer.mapError (.commandFailed ("failed to execute " ++ program))

def Delivery.output (program : String) : Delivery → Except EngineError Output
  | .unsaved reason => .error (.io reason)
  | .ran answer => launched program answer

def listed (output : Output) : Except EngineError (List Build) :=
  if output.isSuccess then readQueryOutput output.outText
  else .error (.ofComplaint (String.ofList output.errText) none)

/-- The table decides, and in its place the message that there is nothing to do, but only if no
line of the script failed. -/
def resolved (output : Output) : Except EngineError Transaction :=
  match goalFailure? output.errText with
  | some error => .error error
  | none =>
      match readTransactionTable output.outText with
      | some transaction => .ok transaction
      | none =>
          if Text.occurs "Nothing to do".toList output.outText then .ok {}
          else .error (.ofComplaint (String.ofList output.errText) none)

def completed (output : Output) : Except EngineError Unit :=
  match goalFailure? output.errText with
  | some error => .error error
  | none =>
      if output.isSuccess then .ok ()
      else .error (.ofComplaint (String.ofList output.errText) none)

/-! ### The events of the calls -/

/-- The action leaves the handle as it is, and the promise holds of what it does on the machine
and of its result. -/
def Makes (action : Act (Witnessed World × Handle) Error Result)
    (promise : List Event → Except Error Result → Prop) (before : Witnessed World × Handle) :
    Prop :=
  action.Ensures before fun result after => after.2 = before.2 ∧ ∃ events,
    after.1.events = before.1.events ++ events ∧ promise events result

namespace Makes

variable {before : Witnessed World × Handle} {promise : List Event → Except Error Result → Prop}

theorem ensures {action : Act (Witnessed World × Handle) Error Result}
    (makes : Makes action promise before) :
    action.Ensures before fun result after => after.2 = before.2 ∧ ∃ events,
      after.1.events = before.1.events ++ events ∧ promise events result :=
  makes

theorem mono {action : Act (Witnessed World × Handle) Error Result}
    {weaker : List Event → Except Error Result → Prop} (makes : Makes action promise before)
    (weakens : ∀ events result, promise events result → weaker events result) :
    Makes action weaker before := by
  refine makes.ensures.mono fun result after kept => ?_
  obtain ⟨sameHandle, events, recorded, holds⟩ := kept
  exact ⟨sameHandle, events, recorded, weakens events result holds⟩

theorem pure {value : Result} (holds : promise [] (.ok value)) :
    Makes (Pure.pure value) promise before :=
  Ensures.pure ⟨rfl, [], (List.append_nil _).symm, holds⟩

theorem note {level : Level} {text : String} {promise : List Event → Except Error Unit → Prop}
    (holds : promise [] (.ok ())) : Makes (Act.note level text) promise before :=
  Ensures.note ⟨rfl, [], (List.append_nil _).symm, holds⟩

theorem note_then {level : Level} {text : String}
    {next : Unit → Act (Witnessed World × Handle) Error Result}
    (makes : Makes (next ()) promise before) :
    Makes (Act.note level text >>= next) promise before :=
  Ensures.note_then makes

theorem bind {action : Act (Witnessed World × Handle) Error Result}
    {next : Result → Act (Witnessed World × Handle) Error Next}
    {further : List Event → Except Error Next → Prop} (makes : Makes action promise before)
    (continues : ∀ events value, promise events (.ok value) → ∀ after, after.2 = before.2 →
      Makes (next value) (fun more result => further (events ++ more) result) after)
    (fails : ∀ events error, promise events (.error error) → further events (.error error)) :
    Makes (action >>= next) further before := by
  refine makes.ensures.andThen ?_ ?_
  · rintro value after ⟨sameHandle, events, recorded, holds⟩
    refine (continues events value holds after sameHandle).ensures.mono fun result left kept => ?_
    obtain ⟨stillSame, more, added, reached⟩ := kept
    refine ⟨stillSame.trans sameHandle, events ++ more, ?_, reached⟩
    rw [added, recorded, List.append_assoc]
  · rintro error after ⟨sameHandle, events, recorded, holds⟩
    exact ⟨sameHandle, events, recorded, fails events error holds⟩

end Makes

/-- The machine gives the action one answer, which is on the record, and its result is what the
answer is read as. -/
def Asks (action : Act (Witnessed World × Handle) EngineError Result)
    (record : Answer → List Event) (reads : Answer → Except EngineError Result)
    (before : Witnessed World × Handle) : Prop :=
  Makes action (fun events result => ∃ answer, events = record answer ∧ result = reads answer)
    before

def settle : Except EngineError Result → Act (Witnessed World × Handle) EngineError Result
  | .ok value => pure value
  | .error error => throw error

theorem settle_makes (result : Except EngineError Result) {before : Witnessed World × Handle}
    {promise : List Event → Except EngineError Result → Prop} (holds : promise [] result) :
    Makes (settle result) promise before := by
  cases result with
  | ok value => exact .pure holds
  | error error => exact fun _ => ⟨rfl, [], (List.append_nil _).symm, holds⟩

theorem Asks.bind_settle {action : Act (Witnessed World × Handle) EngineError Result}
    {record : Answer → List Event} {reads : Answer → Except EngineError Result}
    {before : Witnessed World × Handle} (asks : Asks action record reads before)
    {next : Result → Act (Witnessed World × Handle) EngineError Next}
    {judge : Result → Except EngineError Next}
    (judges : ∀ value, next value = settle (judge value)) :
    Asks (action >>= next) record (fun answer => reads answer >>= judge) before := by
  refine Makes.bind asks ?_ ?_
  · rintro _ value ⟨answer, rfl, read⟩ after -
    have judged : judge value = reads answer >>= judge := by
      rw [← read]
      rfl
    rw [judges]
    exact settle_makes _ ⟨answer, List.append_nil _, judged⟩
  · rintro _ error ⟨answer, rfl, read⟩
    have stopped : .error error = reads answer >>= judge := by
      rw [← read]
      rfl
    exact ⟨answer, rfl, stopped⟩

/-! ### Arguments -/

def Plain (texts : List String) : Prop := ∀ text ∈ texts, '\x00' ∉ text.toList

instance (texts : List String) : Decidable (Plain texts) :=
  inferInstanceAs (Decidable (∀ text ∈ texts, '\x00' ∉ text.toList))

theorem plain_append {first second : List String} :
    Plain (first ++ second) ↔ Plain first ∧ Plain second :=
  List.forall_mem_append

theorem contains_nul_eq_false_iff {texts : List String} :
    (texts.any fun text => text.toList.contains '\x00') = false ↔ Plain texts := by
  simp [Plain]

namespace Options

variable (options : Options)

theorem plain_arguments_iff {own : List String} :
    Plain (options.arguments own) ↔ Plain options.extraArguments ∧ Plain own := by
  have flag : Plain (if options.cacheOnly then ["-C"] else []) := by
    cases options.cacheOnly <;> decide
  rw [arguments, plain_append, plain_append]
  simp only [flag, true_and]

theorem plain_listing_iff (program : String) (names : List String) :
    Plain (options.listing program names).arguments ↔
      Plain (options.extraArguments ++ names) := by
  have fixed : Plain ["-q", "repoquery", "--installed", "--queryformat", queryFormat, "--"] := by
    decide
  rw [listing, plain_arguments_iff, plain_append, plain_append]
  simp only [fixed, true_and]

theorem plain_shell (program : String) {flags : List String} (goal : List Directive)
    (extra : Plain options.extraArguments) (plain : Plain flags) :
    Plain (options.shell program flags goal).arguments := by
  have command : Plain ["shell"] := by
    decide
  exact options.plain_arguments_iff.mpr ⟨extra, plain_append.mpr ⟨plain, command⟩⟩

end Options

/-! ### The calls of the engine -/

variable (host : Host World) {options : Options} (before : Witnessed World × Handle)

theorem launch_apply {arguments : List String} (script : Option String)
    (plain : Plain (options.arguments arguments)) (state : Journaled (World × Handle)) :
    launch host options arguments script state =
      let program := state.world.2.program
      let ran := host.launch ⟨program, options.arguments arguments, script⟩ state.world.1
      let after := { state with world := (ran.2, state.world.2) }
      match ran.1 with
      | .ok output => .ok output after
      | .error reason =>
          .error (.commandFailed ("failed to execute " ++ program) reason) after := by
  have passes := contains_nul_eq_false_iff.mpr plain
  obtain ⟨isFile, searchPath, run, save⟩ := host
  simp only [launch, Act.bind_apply, Act.readWorld_apply, passes, Act.changeWorld_apply,
    Bool.false_eq_true, if_false]
  cases run ⟨state.world.2.program, options.arguments arguments, script⟩ state.world.1 with
  | mk answer world => cases answer <;> rfl

theorem launch_of_not_plain {arguments : List String} (script : Option String)
    (nul : ¬ Plain (options.arguments arguments)) (state : Journaled (World × Handle)) :
    launch host options arguments script state =
      .error (.commandFailed ("failed to execute " ++ state.world.2.program)
        "nul byte found in provided data") state := by
  have refused := (Bool.not_eq_false _).mp (mt contains_nul_eq_false_iff.mp nul)
  simp only [launch, Act.bind_apply, Act.readWorld_apply, refused, if_true, Act.throw_apply]

theorem launch_asks {arguments : List String} (script : Option String)
    (plain : Plain (options.arguments arguments)) :
    Asks (launch host.witnessed options arguments script)
      (fun answer => [.ran ⟨before.2.program, options.arguments arguments, script⟩ answer])
      (launched before.2.program) before := by
  intro journal
  rw [Act.outcome, launch_apply host.witnessed script plain]
  obtain ⟨isFile, searchPath, run, save⟩ := host
  dsimp only [Host.witnessed]
  cases run ⟨before.2.program, options.arguments arguments, script⟩ before.1.world with
  | mk answer world =>
      cases answer with
      | ok output => exact ⟨rfl, _, rfl, .ok output, rfl, rfl⟩
      | error reason => exact ⟨rfl, _, rfl, .error reason, rfl, rfl⟩

theorem save_asks (text : String) :
    Asks (save host.witnessed text) (fun answer => [.saved text answer])
      (Except.mapError EngineError.io) before := by
  intro journal
  obtain ⟨isFile, searchPath, run, save⟩ := host
  simp only [Act.outcome, Dnf.save, Act.bind_apply, Act.readWorld_apply, Act.changeWorld_apply,
    Host.witnessed]
  cases save text before.1.world with
  | mk answer world =>
      cases answer with
      | ok value => exact ⟨rfl, _, rfl, .ok value, rfl, rfl⟩
      | error reason => exact ⟨rfl, _, rfl, .error reason, rfl, rfl⟩

theorem openedHandle_apply (state : Journaled (World × Handle))
    (isOpen : state.world.2.isClosed = false) :
    openedHandle state = .ok state.world.2 state := by
  simp [openedHandle, isOpen]

variable {before} in
theorem Asks.opened {next : Handle → Act (Witnessed World × Handle) EngineError Result}
    {record : Answer → List Event} {reads : Answer → Except EngineError Result}
    (isOpen : before.2.isClosed = false) (asks : Asks (next before.2) record reads before) :
    Asks (openedHandle >>= next) record reads before := by
  intro journal
  simpa only [Act.outcome, Act.bind_apply, openedHandle_apply ⟨before, journal⟩ isOpen] using
    asks journal

theorem installed_asks {names : List String} (plain : Plain (options.extraArguments ++ names))
    (isOpen : before.2.isClosed = false) :
    Asks ((engine host.witnessed options).installed names)
      (fun answer => [.ran (options.listing before.2.program names) answer])
      (fun answer => launched before.2.program answer >>= listed) before := by
  have launches := launch_asks host before none
    ((options.plain_listing_iff before.2.program names).mpr plain)
  refine .opened isOpen (launches.bind_settle fun output => ?_)
  unfold listed
  cases output.isSuccess with
  | false => rfl
  | true => cases readQueryOutput output.outText <;> rfl

theorem installed_of_not_plain {names : List String}
    (nul : ¬ Plain (options.extraArguments ++ names)) (isOpen : before.2.isClosed = false) :
    ((engine host.witnessed options).installed names).Ensures before fun result after =>
      after = before ∧
        result = .error (.commandFailed ("failed to execute " ++ before.2.program)
          "nul byte found in provided data") := by
  intro journal
  have refuses := launch_of_not_plain host.witnessed none
    (mt (options.plain_listing_iff before.2.program names).mp nul) ⟨before, journal⟩
  simp only [Act.outcome, engine, query, Act.bind_apply,
    openedHandle_apply ⟨before, journal⟩ isOpen, refuses, and_self]

section Shell

variable (extra : Plain options.extraArguments)

include extra

theorem runGoal_asks {flags : List String} (plain : Plain flags) :
    Asks (runGoal host.witnessed options flags)
      (options.delivery before.2.program flags before.2.goal)
      (Delivery.output before.2.program) before := by
  have delivers : Asks
      (save host.witnessed (script before.2.goal) >>= fun _ =>
        launch host.witnessed options (flags ++ ["shell"]) (some (script before.2.goal)))
      (options.delivery before.2.program flags before.2.goal)
      (Delivery.output before.2.program) before := by
    refine Makes.bind (save_asks host before (script before.2.goal)) ?_ ?_
    · rintro _ _ ⟨saved, rfl, read⟩ after sameHandle
      have launches := launch_asks host after (some (script before.2.goal))
        (options.plain_shell after.2.program before.2.goal extra plain)
      refine Makes.mono launches fun events result ran => ?_
      obtain ⟨answer, rfl, launchRead⟩ := ran
      refine ⟨.ran answer, ?_, ?_⟩
      · cases saved with
        | ok value =>
            rw [sameHandle]
            rfl
        | error reason => cases read
      · rw [launchRead, sameHandle]
        rfl
    · rintro _ error ⟨saved, rfl, read⟩
      cases saved with
      | ok value => cases read
      | error reason =>
          cases read
          exact ⟨.unsaved reason, rfl, rfl⟩
  intro journal
  exact delivers journal

theorem runGoalChecked_asks {flags : List String} (plain : Plain flags) :
    Asks (runGoalChecked host.witnessed options flags)
      (options.delivery before.2.program flags before.2.goal)
      (fun delivery => delivery.output before.2.program >>= completed) before := by
  refine (runGoal_asks host before extra plain).bind_settle fun output => ?_
  unfold completed
  cases goalFailure? output.errText with
  | some error => rfl
  | none => cases output.isSuccess <;> rfl

variable (isOpen : before.2.isClosed = false)

include isOpen

theorem resolve_asks (some : before.2.goal ≠ []) :
    Asks (engine host.witnessed options).resolve
      (options.delivery before.2.program ["--assumeno"] before.2.goal)
      (fun delivery => delivery.output before.2.program >>= resolved) before := by
  refine .opened isOpen ?_
  rw [List.isEmpty_eq_false_iff.mpr some]
  refine (runGoal_asks host before extra (by decide)).bind_settle fun output => ?_
  unfold resolved
  cases goalFailure? output.errText with
  | some error => rfl
  | none =>
      cases readTransactionTable output.outText with
      | some transaction => rfl
      | none =>
          dsimp only
          split <;> rfl

theorem download_asks {builds : List Build} (some : builds ≠ []) :
    Asks ((engine host.witnessed options).download builds)
      (options.delivery before.2.program ["-y", "--downloadonly"] before.2.goal)
      (fun delivery => delivery.output before.2.program >>= completed) before := by
  refine .opened isOpen ?_
  rw [List.isEmpty_eq_false_iff.mpr some]
  exact Makes.note_then (runGoalChecked_asks host before extra (by decide))

theorem apply_asks {transaction : Transaction} (full : transaction.isEmpty = false) :
    Asks ((engine host.witnessed options).apply transaction)
      (options.delivery before.2.program ["-y"] before.2.goal)
      (fun delivery => delivery.output before.2.program >>= completed) before := by
  refine .opened isOpen ?_
  rw [full]
  exact Makes.note_then (runGoalChecked_asks host before extra (by decide))

end Shell

end PackageProvider.Dnf
