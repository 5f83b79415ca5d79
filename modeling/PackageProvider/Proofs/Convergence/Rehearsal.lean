import Mathlib
import PackageProvider.Proofs.Memory.Converging

set_option autoImplicit false

/-! A rehearsal tells what would happen: without rules that make downloads or the applying
fail, converging comes to the same result whether or not anything is to be changed. Once a
goal is resolved nothing else can fail, because all that is to be installed is on offer. -/

namespace PackageProvider.Memory

open Act (Agree)

variable {database : Database} {handle : Handle}

namespace Database

/-- Whether nothing makes the calls after the resolution fail. -/
def CarriesOut (database : Database) : Prop :=
  ¬ database.failures.Armed .download ∧ ¬ database.failures.Armed .apply

theorem Untouched.carriesOut {before after : Database} (same : before.Untouched after)
    (clear : before.CarriesOut) : after.CarriesOut :=
  ⟨fun armed => clear.1 (same.rules .download armed),
    fun armed => clear.2 (same.rules .apply armed)⟩

end Database

theorem conclude_succeeds (options : RunOptions) (transaction : Transaction)
    (clear : database.CarriesOut)
    (offered : ∀ build ∈ transaction.installs, build ∈ database.available)
    (isOpen : handle.isClosed = false) (journal : List JournalEntry) :
    ((engine.conclude options transaction).outcome ⟨(database, handle), journal⟩).1 =
      .ok transaction := by
  have concluded := conclude_ensures options transaction offered isOpen journal
  cases came : ((engine.conclude options transaction).outcome ⟨(database, handle), journal⟩).1 with
  | ok value =>
      rw [came] at concluded
      rw [concluded.1]
  | error error =>
      rw [came] at concluded
      obtain ⟨-, -, download | apply⟩ := concluded
      · exact (clear.1 download).elim
      · exact (clear.2 apply).elim

theorem execute_agrees (intents : List Intent) (first second : RunOptions)
    (clear : database.CarriesOut) (journal : List JournalEntry) :
    Agree (engine.execute intents first) (engine.execute intents second)
      ⟨(database, {}), journal⟩ := by
  cases intents with
  | nil =>
      rw [Engine.execute_nil, Engine.execute_nil]
      exact .refl _ _
  | cons intent rest =>
      rw [Engine.execute_cons, Engine.execute_cons]
      -- Up to the resolution the runs are one; after it neither of them can fail.
      refine .bind fun transaction after gathered => ?_
      obtain ⟨⟨middle, handle⟩, written⟩ := after
      obtain ⟨same, isOpen, resolves⟩ := (gather_ensures (intent :: rest)).of_ok gathered
      have stillClear := same.carriesOut clear
      have offered : ∀ build ∈ transaction.installs, build ∈ middle.available := by
        rw [same.available]
        exact (Database.resolution_resolved resolves).offered
      have succeeds (options : RunOptions) :=
        conclude_succeeds options transaction stillClear offered isOpen written
      exact (succeeds first).trans (succeeds second).symm

theorem converge_agrees (items : List DesiredItem) (first second : RunOptions)
    (clear : database.CarriesOut) (journal : List JournalEntry) :
    Agree (engine.converge items first) (engine.converge items second) ⟨database, journal⟩ := by
  refine .bind fun _ checked passes => ?_
  obtain ⟨unchanged, supported⟩ := (requireSupported_ensures items database).of_ok passes
  refine .inSession fun handle opened opens written => ?_
  rw [← unchanged] at clear
  obtain ⟨openedSame, fresh⟩ := openHandle_ensures.of_ok opens
  rw [fresh]
  refine .bind fun plan planned plans => ?_
  rcases supported with ⟨-, supported⟩ | ⟨refused, -⟩
  · obtain ⟨plannedSame, sameHandle, -⟩ := (plan_ensures supported rfl).of_ok plans
    obtain ⟨⟨middle, handle⟩, written⟩ := planned
    subst sameHandle
    have stillClear := plannedSame.carriesOut (openedSame.carriesOut clear)
    exact .map _ (.mapFailure (execute_agrees plan.intents first second stillClear written))
  · cases refused

/-- The rehearsal has the result of the real run from the same state, and changes nothing. -/
theorem rehearsal_faithful (database : Database) (journal : List JournalEntry)
    (items : List DesiredItem) (retry : RetryPolicy)
    (noDownloadRule : ¬ database.failures.Armed .download)
    (noApplyRule : ¬ database.failures.Armed .apply) :
    let rehearsed := (engine.converge items { noop := true, retry }).outcome ⟨database, journal⟩
    let performed := (engine.converge items { noop := false, retry }).outcome ⟨database, journal⟩
    rehearsed.1 = performed.1 ∧
      rehearsed.2.world.installed = database.installed ∧
      rehearsed.2.world.available = database.available ∧
      rehearsed.2.world.requires = database.requires := by
  refine ⟨converge_agrees items _ _ ⟨noDownloadRule, noApplyRule⟩ journal, ?_⟩
  have ended := @converge_ensures database items { noop := true, retry } journal
  generalize ((engine.converge items { noop := true, retry }).outcome
    ⟨database, journal⟩).1 = result at ended
  generalize ((engine.converge items { noop := true, retry }).outcome
    ⟨database, journal⟩).2.world = left at ended ⊢
  cases ended with
  | refused => exact ⟨rfl, rfl, rfl⟩
  | failed same => exact ⟨same.installed, same.available, same.requires⟩
  | done _ _ leaves => exact ⟨leaves.installed, leaves.available, leaves.requires⟩

def flakyCurl : Database where
  installed := [⟨"curl", "8.4-1", "x86_64"⟩, ⟨"wget", "1.21-1", "x86_64"⟩]
  available := [⟨"curl", "8.5-1", "x86_64"⟩, ⟨"libcurl", "8.5-1", "x86_64"⟩]
  requires := [("curl", "libcurl")]
  failures := { download := some ⟨.network, "mirror is down", some 0⟩ }

def flakyCurlSettled : Transaction where
  installs := [⟨"curl", "8.5-1", "x86_64"⟩, ⟨"libcurl", "8.5-1", "x86_64"⟩]
  removals := [⟨"wget", "1.21-1", "x86_64"⟩]

theorem flakyCurl_rehearsal :
    let items : List DesiredItem := [⟨"curl", .latest⟩, ⟨"wget", .absent⟩]
    let changes : List Change := [⟨"curl", .installed "8.4-1", .installed "8.5-1"⟩,
      ⟨"wget", .installed "1.21-1", .absent⟩]
    ((engine.converge items { noop := true, retry := .once }).outcome ⟨flakyCurl, []⟩).1 =
        .ok changes ∧
      ((engine.converge items { noop := true, retry := .once }).outcome
        ⟨flakyCurl, []⟩).2.world.installed = flakyCurl.installed ∧
      ∃ after,
        engine.converge items { noop := false, retry := .once } ⟨flakyCurl, []⟩ =
            .ok changes after ∧
          after.world.installed = flakyCurlSettled.installs := by
  intro items changes
  have clear (point : FailurePoint) : ¬ flakyCurl.failures.Armed point := by
    rintro ⟨rule, found, spare⟩
    cases point <;> cases found
    exact spare rfl
  have resolves : flakyCurl.resolution (flakyCurl.goal items) =
      .ok ⟨[⟨"curl", "8.5-1", "x86_64"⟩, ⟨"libcurl", "8.5-1", "x86_64"⟩],
        [⟨"wget", "1.21-1", "x86_64"⟩]⟩ := by
    cbv
  have reports : report flakyCurlSettled (items.map DesiredItem.name) (flakyCurl.baseline items) =
      changes := by
    decide +kernel
  have settled : (flakyCurl.applied flakyCurlSettled).installed = flakyCurlSettled.installs := by
    decide +kernel
  have calm : ¬ flakyCurl.IsArmed := by
    rintro ⟨point, armed⟩
    exact clear point armed
  obtain ⟨after, run, leaves⟩ := converge_resolved [] { noop := false, retry := .once }
    calm (by decide) resolves
  have performed : engine.converge items { noop := false, retry := .once } ⟨flakyCurl, []⟩ =
      .ok changes after := by
    rw [run]
    exact congrArg (EStateM.Result.ok · after) reports
  obtain ⟨same, kept, -⟩ :=
    rehearsal_faithful flakyCurl [] items .once (clear .download) (clear .apply)
  rw [Act.outcome_of_ok performed] at same
  exact ⟨same, kept, after, performed, leaves.installed.trans settled⟩

end PackageProvider.Memory
