import Mathlib
import PackageProvider.Proofs.Attempts
import PackageProvider.Proofs.Kept
import PackageProvider.Proofs.Memory.Converging

set_option autoImplicit false

/-! Downloads that fail for a while. Where nothing else fails, a run comes through as many
failures that may pass as its policy has attempts to spare, and is then the run without them.
One failure more, or one failure of another kind, ends it and leaves what is installed. -/

namespace PackageProvider

theorem ErrorCategory.isRetryable_error (category : ErrorCategory) (text : String) :
    (category.error text).isRetryable = category.isRetryable := by
  cases category <;> rfl

def RetryPolicy.tries (policy : RetryPolicy) (category : ErrorCategory) : Nat :=
  if category.isRetryable then policy.limit else 1

theorem RetryPolicy.tries_of_retryable {policy : RetryPolicy} {category : ErrorCategory}
    (passing : category.isRetryable = true) : policy.tries category = policy.limit :=
  if_pos passing

theorem RetryPolicy.tries_of_lasting {policy : RetryPolicy} {category : ErrorCategory}
    (lasting : ¬ category.isRetryable = true) : policy.tries category = 1 :=
  if_neg lasting

namespace Memory

open Act (Ensures)

variable {database : Database} {handle : Handle}

namespace Database

def failing (database : Database) (category : ErrorCategory) (message : String) (times : Nat) :
    Database :=
  database.withFailure .download ⟨category, message, some times⟩

theorem failing_of_rule {category : ErrorCategory} {message : String} {times : Nat}
    (rule : database.failures.download = some ⟨category, message, some times⟩) :
    database.failing category message times = database := by
  unfold failing withFailure FailureRules.insert
  rw [← rule]

def downloaded (database : Database) : Database :=
  { database with counts := { database.counts with downloads := database.counts.downloads + 1 } }

structure Awaits (before after : Database) : Prop where
  untouched : before.Untouched after
  failures : after.failures = before.failures
  downloads : after.counts.downloads = before.counts.downloads
  applies : after.counts.applies = before.counts.applies

theorem Awaits.refl (database : Database) : Awaits database database :=
  ⟨.refl database, rfl, rfl, rfl⟩

theorem Awaits.trans {first second third : Database} (early : Awaits first second)
    (late : Awaits second third) : Awaits first third :=
  ⟨early.untouched.trans late.untouched, late.failures.trans early.failures,
    late.downloads.trans early.downloads, late.applies.trans early.applies⟩

theorem awaits_called {point : FailurePoint} {raise : CallCounts → CallCounts}
    (passes : ¬ database.failures.Armed point)
    (downloads : (raise database.counts).downloads = database.counts.downloads)
    (applies : (raise database.counts).applies = database.counts.applies) :
    database.Awaits (database.called point raise) := by
  constructor
  · exact database.untouched_called point raise
  · rw [called, FailureRules.trip_of_not_armed passes]
  · exact downloads
  · exact applies

def OnlyDownloadsFail (database : Database) : Prop :=
  ∀ point, database.failures.Armed point → point = .download

theorem OnlyDownloadsFail.not_armed (only : database.OnlyDownloadsFail) {point : FailurePoint}
    (other : point ≠ .download) : ¬ database.failures.Armed point :=
  fun armed => other (only point armed)

theorem Awaits.onlyDownloadsFail {before after : Database} (same : Awaits before after)
    (only : before.OnlyDownloadsFail) : after.OnlyDownloadsFail := by
  unfold OnlyDownloadsFail
  rw [same.failures]
  exact only

end Database

/-! ### Up to the resolution -/

theorem openHandle_awaits (only : database.OnlyDownloadsFail) :
    openHandle.Ensures database fun result after =>
      result = .ok {} ∧ database.Awaits after := by
  have passes : ¬ database.failures.Armed .opening := only.not_armed (by decide)
  intro journal
  simp only [Act.outcome, openHandle_apply, FailureRules.trip_of_not_armed passes, true_and]
  exact Database.awaits_called passes rfl rfl

theorem query_awaits (names : List String) (only : database.OnlyDownloadsFail)
    (isOpen : handle.isClosed = false) :
    (query Database.installed names).Ensures (database, handle) fun result after =>
      result = .ok (Database.named names database.installed) ∧
        database.Awaits after.1 ∧ after.2 = handle := by
  have passes : ¬ database.failures.Armed .query := only.not_armed (by decide)
  intro journal
  simp only [Act.outcome, query_apply _ _ isOpen, FailureRules.trip_of_not_armed passes, and_true]
  exact ⟨rfl, Database.awaits_called passes rfl rfl⟩

theorem close_awaits (state : Journaled (Database × Handle)) :
    state.world.1.Awaits (close state).world.1 := by
  have untouched := close_untouched state
  obtain ⟨⟨database, handle⟩, journal⟩ := state
  simp only [close] at untouched ⊢
  cases isClosed : handle.isClosed with
  | true => exact .refl database
  | false =>
      rw [isClosed] at untouched
      exact ⟨untouched, rfl, rfl, rfl⟩

theorem submit_keeps_awaits (directive : Directive) :
    (engine.submit directive).Keeps fun world =>
      database.Awaits world.1 ∧ world.2.isClosed = false := by
  change (submit directive).Keeps _
  rintro ⟨middle, handle⟩ ⟨same, isOpen⟩ journal
  rw [Act.outcome, submit_apply directive isOpen]
  exact ⟨same.trans ⟨⟨rfl, rfl, rfl, fun _ armed => armed⟩, rfl, rfl, rfl⟩, isOpen⟩

theorem resolve_awaits (only : database.OnlyDownloadsFail) (isOpen : handle.isClosed = false) :
    resolve.Ensures (database, handle) fun result after =>
      result = database.resolution handle.goal ∧ database.Awaits after.1 ∧ after.2 = handle := by
  have passes : ¬ database.failures.Armed .resolve := only.not_armed (by decide)
  intro journal
  have same : database.Awaits (database.called .resolve fun counts =>
      { counts with resolved := counts.resolved + 1 }) :=
    Database.awaits_called passes rfl rfl
  simp only [Act.outcome, resolve_apply isOpen, FailureRules.trip_of_not_armed passes,
    Database.resolution]
  cases (database.settle {} handle.goal).2 with
  | ok transaction => exact ⟨rfl, same, rfl⟩
  | error error => exact ⟨rfl, same, rfl⟩

theorem plan_awaits {items : List DesiredItem} (supported : ∀ item ∈ items, item.ensure ≠ .held)
    (only : database.OnlyDownloadsFail) (isOpen : handle.isClosed = false) :
    (engine.plan items).Ensures (database, handle) fun result after =>
      database.Awaits after.1 ∧ after.2 = handle ∧ ∃ plan, result = .ok plan ∧
        plan.intents = database.planned items ∧ plan.baseline = database.baseline items := by
  have reports := query_awaits (items.map DesiredItem.name) only isOpen
  refine (plan_ensures_report supported reports).mono fun result after planned => ?_
  cases result with
  | ok plan =>
      obtain ⟨_, ⟨⟨⟩, same, sameHandle⟩, rfl⟩ := planned
      exact ⟨same, sameHandle, _, rfl, database.map_intentsOf items, rfl⟩
  | error error =>
      obtain ⟨_, _, ⟨⟩, _⟩ := planned

theorem gather_awaits (intents : List Intent) (only : database.OnlyDownloadsFail) :
    (engine.gather intents).Ensures (database, {}) fun result after =>
      result = database.resolution (intents.map Intent.directive) ∧
        database.Awaits after.1 ∧ after.2.isClosed = false := by
  have submits : (intents.forM fun intent => engine.submit intent.directive).Keeps
      fun world => database.Awaits world.1 ∧ world.2.isClosed = false := by
    apply Act.Keeps.forM
    intro intent
    exact submit_keeps_awaits intent.directive
  have goal :
      (intents.forM fun intent => engine.submit intent.directive).Ensures (database, {}) _ :=
    submit_all_ensures intents rfl
  have both := goal.and (submits (database, {}) ⟨.refl database, rfl⟩)
  rw [Engine.gather]
  refine both.andThen ?_ ?_
  · rintro _ ⟨middle, handle⟩ ⟨⟨-, -, sameHandle⟩, same, isOpen⟩
    subst sameHandle
    refine (resolve_awaits (same.onlyDownloadsFail only) isOpen).mono fun result after kept => ?_
    obtain ⟨resolves, further, finalHandle⟩ := kept
    rw [same.untouched.resolution] at resolves
    exact ⟨resolves, same.trans further, by rw [finalHandle]⟩
  · rintro _ _ ⟨⟨passed, -⟩, -⟩
    cases passed

/-! ### Downloading -/

inductive Fetched (database : Database) (category : ErrorCategory) (message : String)
    (times tries : Nat) : Except EngineError Unit → Database → Prop where
  | comes (few : times < tries) :
      Fetched database category message times tries (.ok ())
        (database.failing category message 0).downloaded
  | fails (left : Nat) (many : left + tries = times) :
      Fetched database category message times tries (.error (category.error message))
        (database.failing category message left)

variable {category : ErrorCategory} {message : String}

theorem download_failing (builds : List Build) (left : Nat) (isOpen : handle.isClosed = false) :
    (download builds).Ensures (database.failing category message (left + 1), handle)
      fun result after => result = .error (category.error message) ∧
        after = (database.failing category message left, handle) := by
  intro journal
  rw [Act.outcome, download_apply builds isOpen]
  exact ⟨rfl, rfl⟩

theorem download_spent (builds : List Build)
    (offered : ∀ build ∈ builds, build ∈ database.available) (isOpen : handle.isClosed = false) :
    (download builds).Ensures (database.failing category message 0, handle)
      fun result after => result = .ok () ∧
        after = ((database.failing category message 0).downloaded, handle) := by
  have allThere : (builds.find? fun build =>
      !(database.failing category message 0).available.contains build) = none := by
    rw [List.find?_eq_none]
    intro build member
    have there : build ∈ (database.failing category message 0).available := offered build member
    simpa using there
  intro journal
  rw [Act.outcome, download_apply builds isOpen, allThere]
  exact ⟨rfl, rfl⟩

theorem downloads_fetched (retry : RetryPolicy) (builds : List Build) (times : Nat)
    (offered : ∀ build ∈ builds, build ∈ database.available) (isOpen : handle.isClosed = false) :
    (Retry.run retry Retry.warn (engine.download builds)).Ensures
      (database.failing category message times, handle) fun result after =>
        Fetched database category message times (retry.tries category) result after.1 ∧
          after.2 = handle := by
  have positive := retry.limit_pos
  -- The failures so far and those to come are all of them, and another attempt has followed only
  -- those that may pass.
  refine .attempt_counted
    (fun spare world => ∃ left past, world = (database.failing category message left, handle) ∧
      left + past = times ∧ past + spare + 1 = retry.limit ∧
      (past = 0 ∨ category.isRetryable = true)) ?_ _ _
    ⟨times, 0, rfl, by omega, by omega, .inl rfl⟩
  rintro spare _ ⟨left, past, rfl, all, counted, passed⟩
  cases left with
  | zero =>
      refine (download_spent builds offered isOpen).mono ?_
      rintro _ _ ⟨rfl, rfl⟩
      have few : times < retry.tries category := by
        by_cases passing : category.isRetryable = true
        · rw [retry.tries_of_retryable passing]
          omega
        · rw [retry.tries_of_lasting passing]
          have first := passed.resolve_right passing
          omega
      exact .of_promise ⟨.comes few, rfl⟩ nofun
  | succ left =>
      refine (download_failing builds left isOpen).mono ?_
      rintro _ _ ⟨rfl, rfl⟩
      by_cases passing : category.isRetryable = true
      · cases spare with
        | zero =>
            refine ⟨.fails left ?_, rfl⟩
            rw [retry.tries_of_retryable passing]
            omega
        | succ spare =>
            rw [Act.Passes, if_pos (by rwa [category.isRetryable_error])]
            exact ⟨left, past + 1, rfl, by omega, by omega, .inr passing⟩
      · have first := passed.resolve_right passing
        have last : left + retry.tries category = times := by
          rw [retry.tries_of_lasting passing]
          omega
        cases spare with
        | zero => exact ⟨.fails left last, rfl⟩
        | succ spare =>
            rw [Act.Passes, if_neg (by rwa [category.isRetryable_error])]
            exact ⟨.fails left last, rfl⟩

/-! ### Carrying out -/

theorem apply_counts (transaction : Transaction) (passes : ¬ database.failures.Armed .apply)
    (isOpen : handle.isClosed = false) :
    (apply transaction).Ensures (database, handle) fun result after =>
      result = .ok () ∧ after.1.installed = (database.applied transaction).installed ∧
        after.1.counts.downloads = database.counts.downloads ∧
        after.1.counts.applies = database.counts.applies + 1 := by
  intro journal
  simp only [Act.outcome, apply_apply transaction isOpen, FailureRules.trip_of_not_armed passes,
    true_and]
  exact ⟨rfl, rfl, rfl⟩

/-- How carrying out a transaction ends whose download is tried `tries` times where `times`
failures are in its way: it is applied, or the download fails and `left` failures are to come. -/
inductive Weathered (database : Database) (transaction : Transaction) (category : ErrorCategory)
    (message : String) (times tries : Nat) : Except EngineError Unit → Database → Prop where
  | comes {after : Database} (few : times < tries)
      (installed : after.installed = (database.applied transaction).installed)
      (downloads : after.counts.downloads = database.counts.downloads + 1)
      (applies : after.counts.applies = database.counts.applies + 1) :
      Weathered database transaction category message times tries (.ok ()) after
  | fails {after : Database} (left : Nat) (many : left + tries = times)
      (installed : after.installed = database.installed)
      (applies : after.counts.applies = database.counts.applies)
      (rule : after.failures.download = some ⟨category, message, some left⟩) :
      Weathered database transaction category message times tries
        (.error (category.error message)) after

namespace Weathered

variable {transaction : Transaction} {times tries : Nat} {result : Except EngineError Unit}

theorem after_awaits {before middle after : Database} (same : before.Awaits middle)
    (ended : Weathered middle transaction category message times tries result after) :
    Weathered before transaction category message times tries result after := by
  cases ended with
  | comes few installed downloads applies =>
      refine .comes few ?_ ?_ ?_
      · rw [installed, (same.untouched.applied transaction).installed]
      · rw [downloads, same.downloads]
      · rw [applies, same.applies]
  | fails left many installed applies rule =>
      refine .fails left many ?_ ?_ rule
      · rw [installed, same.untouched.installed]
      · rw [applies, same.applies]

theorem before_awaits {after final : Database}
    (ended : Weathered database transaction category message times tries result after)
    (same : after.Awaits final) :
    Weathered database transaction category message times tries result final := by
  cases ended with
  | comes few installed downloads applies =>
      exact .comes few (same.untouched.installed.trans installed)
        (same.downloads.trans downloads) (same.applies.trans applies)
  | fails left many installed applies rule =>
      refine .fails left many (same.untouched.installed.trans installed)
        (same.applies.trans applies) ?_
      rw [same.failures, rule]

end Weathered

theorem carryOut_weathered (retry : RetryPolicy) {transaction : Transaction} {times : Nat}
    (installs : transaction.installs ≠ [])
    (offered : ∀ build ∈ transaction.installs, build ∈ database.available)
    (only : database.OnlyDownloadsFail)
    (rule : database.failures.download = some ⟨category, message, some times⟩)
    (isOpen : handle.isClosed = false) :
    (engine.carryOut transaction retry).Ensures (database, handle) fun result after =>
      Weathered database transaction category message times (retry.tries category) result
        after.1 := by
  have fetches : (Retry.run retry Retry.warn (engine.download transaction.installs)).Ensures
      (database.failing category message times, handle) _ :=
    downloads_fetched retry transaction.installs times offered isOpen
  rw [Database.failing_of_rule rule] at fetches
  rw [Engine.carryOut_of_installs engine installs]
  refine fetches.andThen ?_ ?_
  · rintro _ ⟨middle, middleHandle⟩ ⟨fetched, sameHandle⟩
    subst sameHandle
    cases fetched with
    | comes few =>
        have unarmed : ¬ database.failures.Armed .apply := only.not_armed (by decide)
        have passes : ¬ (database.failing category message 0).downloaded.failures.Armed .apply :=
          unarmed
        refine .andThen (apply_counts transaction passes isOpen) ?_ fun _ _ kept => nomatch kept.1
        intro _ after ⟨_, installed, downloads, applies⟩
        exact .note (.comes few installed downloads applies)
  · rintro _ ⟨middle, middleHandle⟩ ⟨fetched, -⟩
    cases fetched with
    | fails left many => exact .fails left many rfl rfl rfl

theorem conclude_weathered (retry : RetryPolicy) {transaction : Transaction} {times : Nat}
    (installs : transaction.installs ≠ [])
    (offered : ∀ build ∈ transaction.installs, build ∈ database.available)
    (only : database.OnlyDownloadsFail)
    (rule : database.failures.download = some ⟨category, message, some times⟩)
    (isOpen : handle.isClosed = false) :
    (engine.conclude { noop := false, retry } transaction).Ensures (database, handle)
      fun result after => ∃ ended, Weathered database transaction category message times
        (retry.tries category) ended after.1 ∧ result = ended.map fun _ => transaction := by
  have some : transaction.isEmpty = false := by
    rw [Transaction.isEmpty, List.isEmpty_eq_false_iff.mpr installs, Bool.false_and]
  refine .note_then ?_
  rw [some]
  refine .andThen (carryOut_weathered retry installs offered only rule isOpen) ?_ ?_
  · exact fun _ after ended => .pure ⟨_, ended, rfl⟩
  · exact fun _ after ended => ⟨_, ended, rfl⟩

theorem Database.planned_ne_nil {items : List DesiredItem} {transaction : Transaction}
    (resolves : database.resolution (database.goal items) = .ok transaction)
    (installs : transaction.installs ≠ []) : database.planned items ≠ [] := by
  intro nothing
  rw [Database.goal, nothing] at resolves
  cases resolves
  exact installs rfl

def WeatheredRun (database : Database) (items : List DesiredItem) (transaction : Transaction)
    (category : ErrorCategory) (message : String) (times tries : Nat)
    (result : Except ConvergeError (List Change)) (after : Database) : Prop :=
  ∃ ended, Weathered database transaction category message times tries ended after ∧
    result = (ended.mapError .engine).map fun _ =>
      report transaction (items.map DesiredItem.name) (database.baseline items)

section

variable {items : List DesiredItem} {transaction : Transaction} {times : Nat}

namespace WeatheredRun

variable {tries : Nat} {result : Except ConvergeError (List Change)} {after : Database}
  (run : WeatheredRun database items transaction category message times tries result after)

include run

theorem of_ok {changes : List Change} (succeeded : result = .ok changes) :
    times < tries ∧
      changes = report transaction (items.map DesiredItem.name) (database.baseline items) ∧
      after.installed = (database.applied transaction).installed ∧
      after.counts.downloads = database.counts.downloads + 1 ∧
      after.counts.applies = database.counts.applies + 1 := by
  obtain ⟨ended, weathered, came⟩ := run
  rw [came] at succeeded
  cases weathered with
  | comes few installed downloads applies =>
      cases succeeded
      exact ⟨few, rfl, installed, downloads, applies⟩
  | fails => cases succeeded

theorem of_error {error : ConvergeError} (failed : result = .error error) :
    tries ≤ times ∧ error = .engine (category.error message) ∧
      after.installed = database.installed ∧ after.counts.applies = database.counts.applies ∧
      after.failures.download = some ⟨category, message, some (times - tries)⟩ := by
  obtain ⟨ended, weathered, came⟩ := run
  rw [came] at failed
  cases weathered with
  | comes => cases failed
  | fails left many installed applies rule =>
      cases failed
      have spared : times - tries = left := by omega
      rw [spared]
      exact ⟨by omega, rfl, installed, applies, rule⟩

theorem ok_iff : (∃ changes, result = .ok changes) ↔ times < tries := by
  constructor
  · rintro ⟨changes, succeeded⟩
    exact (run.of_ok succeeded).1
  · intro few
    cases came : result with
    | ok changes => exact ⟨changes, rfl⟩
    | error error => exact absurd few (Nat.not_lt.mpr (run.of_error came).1)

end WeatheredRun

theorem execute_weathered (retry : RetryPolicy) (only : database.OnlyDownloadsFail)
    (rule : database.failures.download = some ⟨category, message, some times⟩)
    (resolves : database.resolution (database.goal items) = .ok transaction)
    (installs : transaction.installs ≠ []) :
    (engine.execute (database.planned items) { noop := false, retry }).Ensures (database, {})
      fun result after => ∃ ended, Weathered database transaction category message times
        (retry.tries category) ended after.1 ∧ result = ended.map fun _ => transaction := by
  obtain ⟨intent, rest, planned⟩ :=
    List.exists_cons_of_ne_nil (Database.planned_ne_nil resolves installs)
  have offered := (Database.resolution_resolved resolves).offered
  rw [Database.goal] at resolves
  rw [planned] at resolves ⊢
  rw [Engine.execute_cons]
  refine .andThen (gather_awaits (intent :: rest) only) ?_ ?_
  · rintro resolved ⟨middle, handle⟩ ⟨came, same, isOpen⟩
    rw [resolves] at came
    cases came
    rw [← same.untouched.available] at offered
    have concludes := conclude_weathered retry installs offered (same.onlyDownloadsFail only)
      (by rw [same.failures, rule]) isOpen
    refine concludes.mono fun result after kept => ?_
    obtain ⟨ended, weathered, came⟩ := kept
    exact ⟨ended, weathered.after_awaits same, came⟩
  · rintro error after ⟨came, -⟩
    rw [resolves] at came
    cases came

theorem converge_weathered (retry : RetryPolicy) (only : database.OnlyDownloadsFail)
    (rule : database.failures.download = some ⟨category, message, some times⟩)
    (supported : ∀ item ∈ items, item.ensure ≠ .held)
    (resolves : database.resolution (database.goal items) = .ok transaction)
    (installs : transaction.installs ≠ []) :
    (engine.converge items { noop := false, retry }).Ensures database
      (WeatheredRun database items transaction category message times (retry.tries category)) := by
  refine .andThen (requireSupported_ensures items database) ?_ ?_
  · rintro _ _ ⟨rfl, -⟩
    refine .inSession ((openHandle_awaits only).mono ?_)
    rintro _ opened ⟨rfl, openedSame⟩
    have openedOnly := openedSame.onlyDownloadsFail only
    refine .andThen (plan_awaits supported openedOnly rfl) ?_ ?_
    · rintro plan ⟨middle, handle⟩ ⟨plannedSame, sameHandle, _, ⟨⟩, intents, baseline⟩
      subst sameHandle
      have same := openedSame.trans plannedSame
      rw [intents, baseline, openedSame.untouched.planned, openedSame.untouched.baseline,
        ← same.untouched.planned]
      have middleRule : middle.failures.download = some ⟨category, message, some times⟩ := by
        rw [same.failures, rule]
      have middleResolves : middle.resolution (middle.goal items) = .ok transaction := by
        rw [same.untouched.goal, same.untouched.resolution, resolves]
      have executes := execute_weathered retry (same.onlyDownloadsFail only) middleRule
        middleResolves installs
      -- What comes before the first download and the closing at the end make no difference to how
      -- the run ends, so it ends as carrying out its transaction does.
      refine .andThen (.mapFailure executes) ?_ ?_
      · rintro resolved left ⟨ended, weathered, came⟩
        refine .pure fun journal => ⟨ended, ?_, ?_⟩
        · exact (weathered.after_awaits same).before_awaits (close_awaits ⟨left, journal⟩)
        · cases ended with
          | ok value =>
              cases came
              rfl
          | error error => cases came
      · rintro _ left ⟨error, rfl, ended, weathered, came⟩ journal
        refine ⟨ended, ?_, ?_⟩
        · exact (weathered.after_awaits same).before_awaits (close_awaits ⟨left, journal⟩)
        · cases ended with
          | ok value => cases came
          | error error =>
              cases came
              rfl
    · rintro _ _ ⟨-, -, _, impossible, -⟩
      cases impossible
  · rintro _ _ ⟨-, ⟨passed, -⟩ | ⟨-, item, member, held⟩⟩
    · cases passed
    · exact (supported item member held).elim

end

theorem Database.onlyDownloadsFail_failing (calm : ¬ database.IsArmed) (category : ErrorCategory)
    (message : String) (times : Nat) :
    (database.failing category message times).OnlyDownloadsFail := by
  rintro point ⟨rule, found, armed⟩
  by_contra other
  rw [failing, withFailure, FailureRules.get?_insert, if_neg other] at found
  exact calm ⟨point, rule, found, armed⟩

/-- Up to the limit, failures of the network while downloading make no difference to a run that
has something to install. -/
theorem converge_absorbs_failures (calm : ¬ database.IsArmed) (journal : List JournalEntry)
    {items : List DesiredItem} {transaction : Transaction}
    (supported : ∀ item ∈ items, item.ensure ≠ .held)
    (resolves : database.resolution (database.goal items) = .ok transaction)
    (installs : transaction.installs ≠ []) (retry : RetryPolicy) (message : String)
    (times : Nat) :
    let converge (database : Database) :=
      (engine.converge items { noop := false, retry }).outcome ⟨database, journal⟩
    let plain := converge database
    let flaky := converge (database.failing .network message times)
    ((∃ changes, flaky.1 = .ok changes) ↔ times < retry.limit) ∧
      (∀ changes, flaky.1 = .ok changes →
        plain.1 = .ok changes ∧ flaky.2.world.installed = plain.2.world.installed ∧
          flaky.2.world.counts.downloads = database.counts.downloads + 1 ∧
          flaky.2.world.counts.applies = database.counts.applies + 1) ∧
      (∀ error, flaky.1 = .error error →
        error = .engine (.network message) ∧
          flaky.2.world.installed = database.installed ∧
          flaky.2.world.counts.applies = database.counts.applies ∧
          retry.limit ≤ times ∧
          flaky.2.world.failures.download =
            some ⟨.network, message, some (times - retry.limit)⟩) ∧
      ∀ category, category.isRetryable = false →
        ((∃ changes, (converge (database.failing category message times)).1 = .ok changes) ↔
          times = 0) := by
  intro converge plain flaky
  have runs (category : ErrorCategory) :
      WeatheredRun (database.failing category message times) items transaction category message
        times (retry.tries category) (converge (database.failing category message times)).1
        (converge (database.failing category message times)).2.world := by
    have same : (database.failing category message times).Untouched database :=
      ⟨rfl, rfl, rfl, fun point armed => (calm ⟨point, armed⟩).elim⟩
    have only := database.onlyDownloadsFail_failing calm category message times
    rw [same.resolution, same.goal] at resolves
    exact converge_weathered retry only rfl supported resolves installs journal
  obtain ⟨after, plainly, applied⟩ :=
    converge_resolved journal { noop := false, retry } calm supported resolves
  have ended : plain = (.ok _, after) := Act.outcome_of_ok plainly
  have run := runs .network
  rw [retry.tries_of_retryable rfl] at run
  refine ⟨run.ok_iff, ?_, ?_, ?_⟩
  · intro changes succeeded
    obtain ⟨-, rfl, installed, downloads, applies⟩ := run.of_ok succeeded
    rw [ended]
    exact ⟨rfl, installed.trans applied.installed.symm, downloads, applies⟩
  · intro error failed
    obtain ⟨many, rfl, installed, applies, rule⟩ := run.of_error failed
    exact ⟨rfl, installed, applies, many, rule⟩
  · intro category lasting
    have run := runs category
    rw [retry.tries_of_lasting (by simp [lasting])] at run
    rw [run.ok_iff, Nat.lt_one_iff]

def treeOffer : Database where
  available := [⟨"tree", "1.8.0-10", "x86_64"⟩]

/-- Of three attempts two may fail. Four failures end the run, and one of them is left. -/
theorem treeOffer_absorbs_failures :
    let items : List DesiredItem := [⟨"tree", .present⟩]
    let transaction : Transaction := { installs := [⟨"tree", "1.8.0-10", "x86_64"⟩] }
    let converge (times : Nat) :=
      (engine.converge items { noop := false, retry := .standard }).outcome
        ⟨treeOffer.failing .network "mirror timeout" times, []⟩
    ¬ treeOffer.IsArmed ∧ (∀ item ∈ items, item.ensure ≠ .held) ∧
      treeOffer.resolution (treeOffer.goal items) = .ok transaction ∧
      (∃ changes, (converge 2).1 = .ok changes) ∧
      ∃ error, (converge 4).1 = .error error ∧
        (converge 4).2.world.failures.download = some ⟨.network, "mirror timeout", some 1⟩ := by
  intro items transaction converge
  have calm : ¬ treeOffer.IsArmed := Database.calm_of_no_rules rfl
  have supported : ∀ item ∈ items, item.ensure ≠ .held := by simp [items]
  have resolves : treeOffer.resolution (treeOffer.goal items) = .ok transaction := by cbv
  have two := converge_absorbs_failures calm [] supported resolves (by simp [transaction])
    .standard "mirror timeout" 2
  have four := converge_absorbs_failures calm [] supported resolves (by simp [transaction])
    .standard "mirror timeout" 4
  dsimp only at two four
  refine ⟨calm, supported, resolves, ?_⟩
  dsimp only [converge]
  constructor
  · exact two.1.mpr (by decide)
  generalize (engine.converge items { noop := false, retry := .standard }).outcome
    ⟨treeOffer.failing .network "mirror timeout" 4, []⟩ = run at four ⊢
  obtain ⟨enough, -, fails, -⟩ := four
  cases came : run.1 with
  | ok changes => exact absurd (enough.mp ⟨changes, came⟩) (by decide)
  | error error =>
      obtain ⟨-, -, -, -, rule⟩ := fails error came
      exact ⟨error, rfl, rule⟩

end Memory

end PackageProvider
