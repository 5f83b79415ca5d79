import PackageProvider.Memory.Engine
import PackageProvider.Proofs.Act
import PackageProvider.Proofs.Memory.Untouched

set_option autoImplicit false

/-! What each call on a database in memory does, and what it promises of its result. -/

namespace PackageProvider.Memory

open Act

variable {database : Database} {handle : Handle}

theorem requireOpen_apply (isOpen : handle.isClosed = false) (journal : List JournalEntry) :
    requireOpen ⟨(database, handle), journal⟩ = .ok () ⟨(database, handle), journal⟩ := by
  simp [requireOpen, isOpen]

theorem requireNoFailure_apply (point : FailurePoint) (journal : List JournalEntry) :
    requireNoFailure point ⟨(database, handle), journal⟩ =
      match (database.failures.trip point).1 with
      | none => .ok () ⟨(database.called point id, handle), journal⟩
      | some error => .error error ⟨(database.called point id, handle), journal⟩ := by
  cases trips : database.failures.trip point with
  | mk error failures =>
      cases error <;> simp [requireNoFailure, changeDatabase, trips, Database.called]

theorem query_apply (builds : Database → List Build) (names : List String)
    (isOpen : handle.isClosed = false) (journal : List JournalEntry) :
    query builds names ⟨(database, handle), journal⟩ =
      match (database.failures.trip .query).1 with
      | none =>
          let after := database.called .query fun counts =>
            { counts with queries := counts.queries + 1 }
          .ok (Database.named names (builds after)) ⟨(after, handle), journal⟩
      | some error => .error error ⟨(database.called .query id, handle), journal⟩ := by
  simp only [query, bind_apply, requireOpen_apply isOpen, requireNoFailure_apply]
  cases (database.failures.trip .query).1 <;> simp [count, changeDatabase, Database.called]

theorem submit_apply (directive : Directive) (isOpen : handle.isClosed = false)
    (journal : List JournalEntry) :
    submit directive ⟨(database, handle), journal⟩ =
      let counts := { database.counts with submitted := database.counts.submitted + 1 }
      .ok () ⟨({ database with counts }, { handle with goal := handle.goal ++ [directive] }),
        journal⟩ := by
  simp [submit, requireOpen_apply isOpen, count, changeDatabase]

theorem resolve_apply (isOpen : handle.isClosed = false) (journal : List JournalEntry) :
    resolve ⟨(database, handle), journal⟩ =
      match (database.failures.trip .resolve).1 with
      | none =>
          let after := database.called .resolve fun counts =>
            { counts with resolved := counts.resolved + 1 }
          let (remarks, result) := database.settle {} handle.goal
          let journal := journal ++ remarks.map (JournalEntry.mk .debug)
          match result with
          | .ok transaction => .ok transaction ⟨(after, handle), journal⟩
          | .error error => .error error ⟨(after, handle), journal⟩
      | some error => .error error ⟨(database.called .resolve id, handle), journal⟩ := by
  simp only [resolve, bind_apply, requireOpen_apply isOpen, requireNoFailure_apply]
  cases (database.failures.trip .resolve).1 with
  | some error => rfl
  | none =>
      have same := (database.untouched_called .resolve fun counts =>
        { counts with resolved := counts.resolved + 1 }).settle {} handle.goal
      simp only [count, changeDatabase, changeWorld_apply, readWorld_apply]
      simp only [Database.called, id] at same ⊢
      rw [same, forM_note_apply]
      cases (database.settle {} handle.goal).2 <;> rfl

theorem download_apply (builds : List Build) (isOpen : handle.isClosed = false)
    (journal : List JournalEntry) :
    download builds ⟨(database, handle), journal⟩ =
      match (database.failures.trip .download).1 with
      | none =>
          let after := database.called .download fun counts =>
            { counts with downloads := counts.downloads + 1 }
          match builds.find? fun build => !database.available.contains build with
          | none => .ok () ⟨(after, handle), journal⟩
          | some missing => .error (.notFound missing.nevra) ⟨(after, handle), journal⟩
      | some error => .error error ⟨(database.called .download id, handle), journal⟩ := by
  simp only [download, bind_apply, requireOpen_apply isOpen, requireNoFailure_apply]
  cases (database.failures.trip .download).1 with
  | some error => rfl
  | none =>
      simp only [count, changeDatabase, changeWorld_apply, readWorld_apply]
      cases found : builds.find? fun build => !database.available.contains build with
      | none => simp only [Database.called, found]; rfl
      | some missing => simp only [Database.called, found]; rfl

theorem apply_apply (transaction : Transaction) (isOpen : handle.isClosed = false)
    (journal : List JournalEntry) :
    apply transaction ⟨(database, handle), journal⟩ =
      match (database.failures.trip .apply).1 with
      | none =>
          let after := database.called .apply fun counts =>
            { counts with applies := counts.applies + 1 }
          .ok () ⟨(after.applied transaction, handle), journal⟩
      | some error => .error error ⟨(database.called .apply id, handle), journal⟩ := by
  simp only [apply, bind_apply, requireOpen_apply isOpen, requireNoFailure_apply]
  cases (database.failures.trip .apply).1 <;> simp [count, changeDatabase, Database.called]

theorem openHandle_apply (journal : List JournalEntry) :
    openHandle ⟨database, journal⟩ =
      match (database.failures.trip .opening).1 with
      | none =>
          let after := database.called .opening fun counts =>
            { counts with opened := counts.opened + 1 }
          .ok {} ⟨after, journal⟩
      | some error => .error error ⟨database.called .opening id, journal⟩ := by
  cases trips : database.failures.trip .opening with
  | mk error failures =>
      cases error <;>
        simp only [openHandle, trips, Database.called, bind_apply, readWorld_apply,
          changeWorld_apply, throw_apply, pure_apply, id]

/-! ### Closed handles -/

theorem requireOpen_of_closed (isClosed : handle.isClosed = true) (journal : List JournalEntry) :
    requireOpen ⟨(database, handle), journal⟩ =
      .error .handleClosed ⟨(database, handle), journal⟩ := by
  simp [requireOpen, isClosed]

theorem query_of_closed (builds : Database → List Build) (names : List String)
    (isClosed : handle.isClosed = true) (journal : List JournalEntry) :
    query builds names ⟨(database, handle), journal⟩ =
      .error .handleClosed ⟨(database, handle), journal⟩ := by
  simp only [query, bind_apply, requireOpen_of_closed isClosed]

theorem submit_of_closed (directive : Directive) (isClosed : handle.isClosed = true)
    (journal : List JournalEntry) :
    submit directive ⟨(database, handle), journal⟩ =
      .error .handleClosed ⟨(database, handle), journal⟩ := by
  simp only [submit, bind_apply, requireOpen_of_closed isClosed]

theorem resolve_of_closed (isClosed : handle.isClosed = true) (journal : List JournalEntry) :
    resolve ⟨(database, handle), journal⟩ = .error .handleClosed ⟨(database, handle), journal⟩ := by
  simp only [resolve, bind_apply, requireOpen_of_closed isClosed]

theorem download_of_closed (builds : List Build) (isClosed : handle.isClosed = true)
    (journal : List JournalEntry) :
    download builds ⟨(database, handle), journal⟩ =
      .error .handleClosed ⟨(database, handle), journal⟩ := by
  simp only [download, bind_apply, requireOpen_of_closed isClosed]

theorem apply_of_closed (transaction : Transaction) (isClosed : handle.isClosed = true)
    (journal : List JournalEntry) :
    apply transaction ⟨(database, handle), journal⟩ =
      .error .handleClosed ⟨(database, handle), journal⟩ := by
  simp only [apply, bind_apply, requireOpen_of_closed isClosed]

/-! ### What the calls promise -/

theorem openHandle_ensures :
    openHandle.Ensures database fun result after =>
      database.Untouched after ∧
        match result with
        | .ok handle => handle = {}
        | .error _ => database.IsArmed := by
  intro journal
  simp only [outcome, openHandle_apply]
  cases fails : (database.failures.trip .opening).1 with
  | none =>
      have same := database.untouched_called .opening fun counts =>
        { counts with opened := counts.opened + 1 }
      exact ⟨same, rfl⟩
  | some error =>
      exact ⟨database.untouched_called .opening id, .opening, FailureRules.armed_of_trip fails⟩

theorem query_ensures (builds : Database → List Build) (names : List String)
    (stable : ∀ after, database.Untouched after → builds after = builds database)
    (isOpen : handle.isClosed = false) :
    (query builds names).Ensures (database, handle) fun result after =>
      database.Untouched after.1 ∧ after.2 = handle ∧
        match result with
        | .ok found => found = Database.named names (builds database)
        | .error _ => database.IsArmed := by
  intro journal
  simp only [outcome, query_apply builds names isOpen]
  cases fails : (database.failures.trip .query).1 with
  | none =>
      have same := database.untouched_called .query fun counts =>
        { counts with queries := counts.queries + 1 }
      exact ⟨same, rfl, congrArg (Database.named names) (stable _ same)⟩
  | some error =>
      exact ⟨database.untouched_called .query id, rfl, .query, FailureRules.armed_of_trip fails⟩

theorem submit_ensures (directive : Directive) (isOpen : handle.isClosed = false) :
    (submit directive).Ensures (database, handle) fun result after =>
      result = .ok () ∧ database.Untouched after.1 ∧
        after.2 = { handle with goal := handle.goal ++ [directive] } := by
  intro journal
  simp only [outcome, submit_apply directive isOpen, true_and, and_true]
  exact ⟨rfl, rfl, rfl, fun _ armed => armed⟩

theorem resolve_ensures (isOpen : handle.isClosed = false) :
    resolve.Ensures (database, handle) fun result after =>
      database.Untouched after.1 ∧ after.2 = handle ∧
        match result with
        | .ok transaction => database.resolution handle.goal = .ok transaction
        | .error error => database.IsArmed ∨ database.resolution handle.goal = .error error := by
  intro journal
  simp only [outcome, resolve_apply isOpen, Database.resolution]
  cases fails : (database.failures.trip .resolve).1 with
  | none =>
      have same := database.untouched_called .resolve fun counts =>
        { counts with resolved := counts.resolved + 1 }
      cases settled : (database.settle {} handle.goal).2 with
      | ok transaction => exact ⟨same, rfl, rfl⟩
      | error error => exact ⟨same, rfl, .inr rfl⟩
  | some error =>
      exact ⟨database.untouched_called .resolve id, rfl,
        .inl ⟨.resolve, FailureRules.armed_of_trip fails⟩⟩

theorem resolve_outcome_of_not_armed (isOpen : handle.isClosed = false)
    (calm : ¬ database.failures.Armed .resolve) (journal : List JournalEntry) :
    (resolve.outcome ⟨(database, handle), journal⟩).1 = database.resolution handle.goal := by
  simp only [outcome, resolve_apply isOpen, FailureRules.trip_of_not_armed calm,
    Database.resolution]
  cases (database.settle {} handle.goal).2 with
  | ok transaction => rfl
  | error error => rfl

theorem of_resolve_ok {journal : List JournalEntry} {transaction : Transaction}
    {resolved : Journaled (Database × Handle)}
    (resolves : resolve ⟨(database, handle), journal⟩ = .ok transaction resolved) :
    handle.isClosed = false ∧ database.Untouched resolved.world.1 ∧ resolved.world.2 = handle ∧
      database.resolution handle.goal = .ok transaction := by
  cases isOpen : handle.isClosed with
  | true =>
      rw [resolve_of_closed isOpen] at resolves
      cases resolves
  | false => exact ⟨rfl, (resolve_ensures isOpen).of_ok resolves⟩

/-- Where nothing makes calls fail, a goal that has a resolution is resolved. -/
theorem resolve_succeeds (handle : Handle) (journal : List JournalEntry)
    {transaction : Transaction} (calm : ¬ database.IsArmed) (isOpen : handle.isClosed = false)
    (resolution : database.resolution handle.goal = .ok transaction) :
    ∃ resolved, resolve ⟨(database, handle), journal⟩ = .ok transaction resolved := by
  cases resolves : resolve ⟨(database, handle), journal⟩ with
  | error error resolved =>
      obtain ⟨-, -, armed | unresolved⟩ := (resolve_ensures isOpen).of_error resolves
      · exact (calm armed).elim
      · rw [resolution] at unresolved
        cases unresolved
  | ok found resolved =>
      obtain ⟨-, -, alsoResolution⟩ := (resolve_ensures isOpen).of_ok resolves
      rw [resolution] at alsoResolution
      cases alsoResolution
      exact ⟨resolved, rfl⟩

theorem download_ensures (builds : List Build)
    (offered : ∀ build ∈ builds, build ∈ database.available) (isOpen : handle.isClosed = false) :
    (download builds).Ensures (database, handle) fun result after =>
      database.Untouched after.1 ∧ after.2 = handle ∧
        ∀ error, result = .error error → database.failures.Armed .download := by
  intro journal
  simp only [outcome, download_apply builds isOpen]
  cases fails : (database.failures.trip .download).1 with
  | none =>
      have allThere : (builds.find? fun build => !database.available.contains build) = none := by
        rw [List.find?_eq_none]
        intro build member
        simpa using offered build member
      rw [allThere]
      have same := database.untouched_called .download fun counts =>
        { counts with downloads := counts.downloads + 1 }
      refine ⟨same, rfl, ?_⟩
      intro error failed
      cases failed
  | some error =>
      have armed := FailureRules.armed_of_trip fails
      exact ⟨database.untouched_called .download id, rfl, fun _ _ => armed⟩

theorem apply_ensures (transaction : Transaction) (isOpen : handle.isClosed = false) :
    (apply transaction).Ensures (database, handle) fun result after =>
      after.2 = handle ∧
        match result with
        | .ok _ => (database.applied transaction).Untouched after.1
        | .error _ => database.Untouched after.1 ∧ database.failures.Armed .apply := by
  intro journal
  simp only [outcome, apply_apply transaction isOpen]
  cases fails : (database.failures.trip .apply).1 with
  | none => exact ⟨rfl, rfl, rfl, rfl, fun _ armed => FailureRules.armed_of_armed_trip armed⟩
  | some error => exact ⟨rfl, database.untouched_called .apply id, FailureRules.armed_of_trip fails⟩

theorem close_untouched (state : Journaled (Database × Handle)) :
    state.world.1.Untouched (close state).world.1 := by
  obtain ⟨⟨database, handle⟩, journal⟩ := state
  simp only [close]
  cases handle.isClosed with
  | true => exact .refl database
  | false => exact ⟨rfl, rfl, rfl, fun _ armed => armed⟩

end PackageProvider.Memory
