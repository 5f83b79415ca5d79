import PackageProvider.Proofs.Kept
import PackageProvider.Proofs.Memory.Sharing

set_option autoImplicit false

/-! A session closes the handle that it opened, however its work ends, so what is converged or
inspected leaves as many handles unclosed as there were before. -/

namespace PackageProvider.Memory

open Act (Ensures Keeps)

variable {database : Database} {handle : Handle}

def Database.unclosed (database : Database) : Int :=
  (database.counts.opened : Int) - database.counts.closed

/-- A session at work: its handle is open, and no handle is opened or closed meanwhile. -/
structure AtWork (opened closed : Nat) (world : Database × Handle) : Prop where
  isOpen : world.2.isClosed = false
  opened : world.1.counts.opened = opened
  closed : world.1.counts.closed = closed

variable {opened closed : Nat}

theorem Served.atWork {request : Request} {call : Call} {left : Handle} {after : Database}
    (served : Served request handle database call left after) (unclosed : closes call = false)
    (working : AtWork opened closed (database, handle)) : AtWork opened closed (after, left) := by
  obtain ⟨isOpen, sameOpened, sameClosed⟩ := working
  have stillOpen : left.isOpen = true := by
    rw [served.leaves, SharedDatabase.isOpen_after, unclosed, Handle.isOpen, isOpen]
    rfl
  have counts := served.closed
  rw [stillOpen, Handle.isOpen, isOpen] at counts
  constructor
  · simpa [Handle.isOpen] using stillOpen
  · exact served.opened.trans sameOpened
  · exact (Nat.add_right_cancel counts).trans sameClosed

theorem keeps_of_serve {Result : Type} (request : Request) (call : Except EngineError Result → Call)
    {action : Act (Database × Handle) EngineError Result}
    (serves : request.serve = Request.answered call action)
    (unclosed : ∀ answer, closes (call answer) = false) :
    action.Keeps (AtWork opened closed) := by
  rintro ⟨database, handle⟩ working journal
  have served := request.serve_served handle database journal
  rw [serves] at served
  exact served.atWork (unclosed _) working

theorem callsKeep_atWork : engine.CallsKeep (AtWork opened closed) := by
  constructor
  · exact fun names => keeps_of_serve (.installed names) (.installed names) rfl fun _ => rfl
  · exact fun names => keeps_of_serve (.available names) (.available names) rfl fun _ => rfl
  · exact fun directive =>
      keeps_of_serve (.submit directive) (.submitted directive) rfl fun _ => rfl
  · exact keeps_of_serve .resolve .resolved rfl fun _ => rfl
  · exact fun builds => keeps_of_serve (.download builds) (.downloaded builds) rfl fun _ => rfl
  · exact fun transaction =>
      keeps_of_serve (.apply transaction) (.applied transaction) rfl fun _ => rfl

/-- Whatever comes of the work, the session closes what it opened; where it could not be opened,
there is nothing to close. -/
theorem inSession_unclosed {Error Result : Type} {rename : EngineError → Error}
    {body : Act (Database × Handle) Error Result}
    (works : ∀ opened closed, body.Keeps (AtWork opened closed)) :
    (engine.inSession rename body).Ensures database fun _ after =>
      after.unclosed = database.unclosed := by
  refine .inSession fun journal => ?_
  simp only [Act.outcome, engine, openHandle_apply]
  cases (database.failures.trip .opening).1 with
  | some error => rfl
  | none =>
      refine (works (database.counts.opened + 1) database.counts.closed _ ⟨rfl, rfl, rfl⟩).mono
        fun result left working journal => ?_
      obtain ⟨isOpen, sameOpened, sameClosed⟩ := working
      simp only [close, isOpen, Bool.false_eq_true, if_false, Database.unclosed, sameOpened,
        sameClosed]
      omega

theorem converge_unclosed (items : List DesiredItem) (options : RunOptions) :
    (engine.converge items options).Ensures database fun _ after =>
      after.unclosed = database.unclosed := by
  refine .andThen (requireSupported_ensures items database) ?_ ?_
  · intro _ after kept
    rw [kept.1]
    refine inSession_unclosed fun opened closed => ?_
    have calls : engine.CallsKeep (AtWork opened closed) := callsKeep_atWork
    refine .bind (calls.plan items) fun plan => ?_
    exact .bind (.mapFailure (calls.execute plan.intents options) _) fun _ => .pure _
  · intro _ after kept
    rw [kept.1]

theorem currentState_unclosed (names : List String) :
    (engine.currentState names).Ensures database fun _ after =>
      after.unclosed = database.unclosed :=
  inSession_unclosed fun _ _ => callsKeep_atWork.takeStock names

end PackageProvider.Memory
