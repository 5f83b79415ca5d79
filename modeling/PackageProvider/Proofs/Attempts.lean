import Mathlib.Order.Bounds.Basic
import PackageProvider.Proofs.Act

set_option autoImplicit false

/-! How often a run calls its operation, and what is heard of in between. The operation may do
anything to the world, and so may the listener that hears of the errors, but only the operation
can fail. -/

namespace PackageProvider

theorem RetryPolicy.delayAfter_le (policy : RetryPolicy) (failed : Nat) :
    (policy.delayAfter failed).nanoseconds ≤ policy.maxDelay.nanoseconds := by
  unfold RetryPolicy.delayAfter
  dsimp only
  split
  · unfold Duration.min
    split
    · assumption
    · exact Nat.le_refl _
  · exact Nat.le_refl _

theorem RetryPolicy.limit_pos (policy : RetryPolicy) : 0 < policy.limit :=
  Nat.lt_of_lt_of_le Nat.zero_lt_one (Nat.le_max_right _ _)

theorem RetryPolicy.limit_lt (policy : RetryPolicy) : policy.limit < UInt32.size :=
  Nat.max_lt.mpr ⟨policy.maxAttempts.toNat_lt_size, by decide⟩

namespace Retry

variable {World Result : Type}

def telling (hear : RetryNotice → Journaled World → Journaled World) (notice : RetryNotice) :
    Act World EngineError Unit := fun state => .ok () (hear notice state)

theorem warn_eq_telling : (warn : RetryNotice → Act World EngineError Unit) =
    telling fun notice state =>
      { state with journal := state.journal ++ [⟨.warn, notice.message⟩] } :=
  rfl

def Settles : Except EngineError Result → Prop
  | .ok _ => True
  | .error error => error.isRetryable = false

def noticeAfter (policy : RetryPolicy) (earlier : Nat) (error : EngineError) : RetryNotice :=
  { number := earlier + 1, limit := policy.limit, error, delay := policy.delayAfter earlier }

theorem notice_eq {policy : RetryPolicy} {earlier spare : Nat} (error : EngineError)
    (counted : earlier + (spare + 1) + 1 = policy.limit) :
    notice policy error spare = noticeAfter policy earlier error := by
  have number : policy.limit - (spare + 1) = earlier + 1 := by omega
  rw [notice, noticeAfter, number]
  rfl

/-! ### The outcomes of the operation -/

section

variable (policy : RetryPolicy) (hear : RetryNotice → Journaled World → Journaled World)
  (operation : Act World EngineError Result) (start : Journaled World)

/-- The state in which the operation is called after `earlier` other calls, if calling it never
ended: each error is heard of, and the next call follows. -/
def stateAfter : Nat → Journaled World
  | 0 => start
  | earlier + 1 =>
      match operation (stateAfter earlier) with
      | .ok _ after => after
      | .error error after => hear (noticeAfter policy earlier error) after

def outcomeOf (number : Nat) : Except EngineError Result :=
  (operation.outcome (stateAfter policy hear operation start (number - 1))).1

end

/-! ### The run and a record of it -/

structure Watched (World Result : Type) where
  world : World
  outcomes : List (Except EngineError Result) := []
  notices : List RetryNotice := []

namespace Watched

def forget (state : Journaled (Watched World Result)) : Journaled World :=
  ⟨state.world.world, state.journal⟩

def start (state : Journaled World) : Journaled (Watched World Result) :=
  ⟨{ world := state.world }, state.journal⟩

def add (watched : Watched World Result) (outcome : Except EngineError Result)
    (after : Journaled World) : Journaled (Watched World Result) :=
  ⟨{ watched with world := after.world, outcomes := watched.outcomes ++ [outcome] },
    after.journal⟩

def calling (operation : Act World EngineError Result) :
    Act (Watched World Result) EngineError Result := fun state =>
  match operation (forget state) with
  | .ok value after => .ok value (state.world.add (.ok value) after)
  | .error error after => .error error (state.world.add (.error error) after)

def hearing (hear : RetryNotice → Journaled World → Journaled World) (notice : RetryNotice)
    (state : Journaled (Watched World Result)) : Journaled (Watched World Result) :=
  let after := hear notice (forget state)
  ⟨{ state.world with world := after.world, notices := state.world.notices ++ [notice] },
    after.journal⟩

theorem calling_outcome (operation : Act World EngineError Result)
    (state : Journaled (Watched World Result)) :
    (calling operation).outcome state =
      ((operation.outcome (forget state)).1,
        state.world.add (operation.outcome (forget state)).1
          (operation.outcome (forget state)).2) := by
  simp only [Act.outcome, calling]
  cases operation (forget state) <;> rfl

end Watched

section

variable {policy : RetryPolicy} {hear : RetryNotice → Journaled World → Journaled World}
  {operation : Act World EngineError Result} {start : Journaled World}

/-- The record before a call is made: the calls so far came to these errors, all of them may
pass, and each was heard of. -/
structure Due (policy : RetryPolicy) (hear : RetryNotice → Journaled World → Journaled World)
    (operation : Act World EngineError Result) (start : Journaled World)
    (errors : List EngineError) (state : Journaled (Watched World Result)) : Prop where
  reached : Watched.forget state = stateAfter policy hear operation start errors.length
  called : state.world.outcomes = errors.map .error
  heard : state.world.notices = errors.mapIdx (noticeAfter policy)
  failed : ∀ (i : Nat) (earlier : i < errors.length),
    outcomeOf policy hear operation start (i + 1) = .error errors[i]
  passing : ∀ error ∈ errors, error.isRetryable = true

theorem Due.next {errors : List EngineError} {state : Journaled (Watched World Result)}
    (due : Due policy hear operation start errors state) {error : EngineError}
    {after : Journaled World} (ran : operation (Watched.forget state) = .error error after)
    (passes : error.isRetryable = true) :
    Due policy hear operation start (errors ++ [error])
      (Watched.hearing hear (noticeAfter policy errors.length error)
        (state.world.add (.error error) after)) := by
  have here : operation (stateAfter policy hear operation start errors.length) =
      .error error after := by
    rw [← due.reached]
    exact ran
  constructor
  · rw [List.length_append, List.length_singleton, stateAfter, here]
    rfl
  · rw [List.map_append, ← due.called]
    rfl
  · rw [List.mapIdx_concat, ← due.heard]
    rfl
  · intro i earlier
    rw [List.length_append, List.length_singleton] at earlier
    by_cases old : i < errors.length
    · rw [List.getElem_append_left old]
      exact due.failed i old
    · have last : i = errors.length := by omega
      subst last
      rw [List.getElem_concat_length rfl, outcomeOf, Nat.add_sub_cancel, Act.outcome, here]
  · intro other member
    rcases List.mem_append.mp member with old | new
    · exact due.passing other old
    · rw [List.mem_singleton.mp new]
      exact passes

/-- From a state in which a call is due, the run comes to a call that is the last one: it
settles the run, or no attempt is left. -/
theorem attempt_from_due (spare : Nat) (errors : List EngineError)
    (state : Journaled (Watched World Result))
    (due : Due policy hear operation start errors state)
    (counted : errors.length + spare + 1 = policy.limit) :
    ∃ final after, Due policy hear operation start final after ∧
      final.length + 1 ≤ policy.limit ∧
      (Settles (operation.outcome (Watched.forget after)).1 ∨ final.length + 1 = policy.limit) ∧
      attempt policy (telling hear) operation spare (Watched.forget state) =
        operation (Watched.forget after) ∧
      attempt policy (telling (Watched.hearing hear)) (Watched.calling operation) spare state =
        Watched.calling operation after := by
  -- the induction is on the attempts left, an announced error leaves the next call due
  induction spare generalizing errors state with
  | zero => exact ⟨errors, state, due, by omega, .inr counted, rfl, rfl⟩
  | succ spare ih =>
      cases ran : operation (Watched.forget state) with
      | ok value after =>
          have watched : Watched.calling operation state =
              .ok value (state.world.add (.ok value) after) := by
            rw [Watched.calling, ran]
          refine ⟨errors, state, due, by omega, .inl ?_, ?_, ?_⟩
          · rw [Act.outcome, ran]
            trivial
          · rw [attempt_of_ok ran, ran]
          · rw [attempt_of_ok watched, watched]
      | error error after =>
          have watched : Watched.calling operation state =
              .error error (state.world.add (.error error) after) := by
            rw [Watched.calling, ran]
          by_cases passes : error.isRetryable = true
          · have same := notice_eq error (by omega : errors.length + (spare + 1) + 1 = policy.limit)
            have longer : (errors ++ [error]).length + spare + 1 = policy.limit := by
              rw [List.length_append, List.length_singleton]
              omega
            rw [attempt_of_passing ran passes, attempt_of_passing watched passes, same]
            exact ih (errors ++ [error]) _ (due.next ran passes) longer
          · refine ⟨errors, state, due, by omega, .inl ?_, ?_, ?_⟩
            · rw [Act.outcome, ran]
              exact Bool.eq_false_iff.mpr passes
            · rw [attempt_of_lasting ran passes, ran]
            · rw [attempt_of_lasting watched passes, watched]

theorem Due.outcome {errors : List EngineError} {state : Journaled (Watched World Result)}
    (due : Due policy hear operation start errors state) :
    (operation.outcome (Watched.forget state)).1 =
      outcomeOf policy hear operation start (errors.length + 1) := by
  rw [due.reached, outcomeOf, Nat.add_sub_cancel]

theorem Due.isLeast {errors : List EngineError} {state : Journaled (Watched World Result)}
    (due : Due policy hear operation start errors state)
    (within : errors.length + 1 ≤ policy.limit)
    (ends : Settles (operation.outcome (Watched.forget state)).1 ∨
      errors.length + 1 = policy.limit) :
    IsLeast {k | 0 < k ∧ (Settles (outcomeOf policy hear operation start k) ∨ k = policy.limit)}
      (errors.length + 1) := by
  constructor
  · exact ⟨Nat.succ_pos _, due.outcome ▸ ends⟩
  · rintro k ⟨positive, final⟩
    by_contra early
    have earlier : k - 1 < errors.length := by omega
    have failed := due.failed (k - 1) earlier
    rw [Nat.sub_add_cancel positive] at failed
    rcases final with settled | last
    · rw [failed, Settles, due.passing _ (List.getElem_mem earlier)] at settled
      cases settled
    · omega

end

/-! ### Counting in machine words -/

def allowed (policy : RetryPolicy) : UInt32 :=
  if policy.maxAttempts < 1 then 1 else policy.maxAttempts

theorem allowed_toNat (policy : RetryPolicy) : (allowed policy).toNat = policy.limit := by
  have below : policy.maxAttempts < 1 ↔ policy.maxAttempts.toNat < 1 := UInt32.lt_iff_toNat_lt
  unfold allowed RetryPolicy.limit
  split
  · rename_i none
    exact (Nat.max_eq_right (Nat.le_of_lt (below.mp none))).symm
  · rename_i some
    exact (Nat.max_eq_left (Nat.le_of_not_lt fun none => some (below.mpr none))).symm

theorem toNat_succ_of_lt_allowed {policy : RetryPolicy} {number : UInt32}
    (remains : number < allowed policy) :
    (number + 1).toNat = number.toNat + 1 ∧ number.toNat < policy.limit := by
  have below := UInt32.lt_iff_toNat_lt.mp remains
  rw [allowed_toNat] at below
  have inRange : number.toNat + 1 < 2 ^ 32 :=
    Nat.lt_of_le_of_lt below policy.limit_lt
  exact ⟨by rw [UInt32.toNat_add, UInt32.toNat_one, Nat.mod_eq_of_lt inRange], below⟩

/-- The run as a loop that counts its attempts upwards from one, in a word of 32 bits. -/
def loop (policy : RetryPolicy) (announce : RetryNotice → Act World EngineError Unit)
    (operation : Act World EngineError Result) (number : UInt32) :
    Act World EngineError Result := fun state =>
  match operation state with
  | .ok value after => .ok value after
  | .error error after =>
      if _remains : error.isRetryable = true ∧ number < allowed policy then
        let notice : RetryNotice :=
          { number := number.toNat, limit := (allowed policy).toNat, error,
            delay := policy.delayAfter (number - 1).toNat }
        (announce notice >>= fun _ => loop policy announce operation (number + 1)) after
      else .error error after
termination_by policy.limit - number.toNat
decreasing_by
  have next := toNat_succ_of_lt_allowed _remains.2
  omega

section

variable {policy : RetryPolicy} {announce : RetryNotice → Act World EngineError Unit}
  {operation : Act World EngineError Result} {number : UInt32} {state after : Journaled World}

theorem loop_of_ok {value : Result} (ran : operation state = .ok value after) :
    loop policy announce operation number state = .ok value after := by
  rw [loop, ran]

theorem loop_of_stops {error : EngineError} (ran : operation state = .error error after)
    (stops : ¬ (error.isRetryable = true ∧ number < allowed policy)) :
    loop policy announce operation number state = .error error after := by
  rw [loop, ran]
  exact dif_neg stops

theorem loop_of_remains {error : EngineError} (ran : operation state = .error error after)
    (passes : error.isRetryable = true) (remains : number < allowed policy)
    (positive : 0 < number.toNat) :
    loop policy announce operation number state =
      (announce (noticeAfter policy (number.toNat - 1) error) >>= fun _ =>
        loop policy announce operation (number + 1)) after := by
  have earlier : (number - 1).toNat = number.toNat - 1 :=
    UInt32.toNat_sub_of_le number 1 (UInt32.le_iff_toNat_le.mpr positive)
  rw [loop, ran]
  simp only [dif_pos (And.intro passes remains), noticeAfter, allowed_toNat, earlier,
    Nat.sub_add_cancel positive]

theorem attempt_eq_loop (spare : Nat) (number : UInt32) (positive : 0 < number.toNat)
    (counted : number.toNat + spare = policy.limit) :
    attempt policy announce operation spare = loop policy announce operation number := by
  induction spare generalizing number with
  | zero =>
      have last : ¬ number < allowed policy := by
        intro remains
        have below := (toNat_succ_of_lt_allowed remains).2
        omega
      funext state
      rw [attempt]
      cases ran : operation state with
      | ok value after => exact (loop_of_ok ran).symm
      | error error after => exact (loop_of_stops ran fun remains => last remains.2).symm
  | succ spare ih =>
      have remains : number < allowed policy := by
        rw [UInt32.lt_iff_toNat_lt, allowed_toNat]
        omega
      have next := (toNat_succ_of_lt_allowed remains).1
      funext state
      cases ran : operation state with
      | ok value after => rw [attempt_of_ok ran, loop_of_ok ran]
      | error error after =>
          by_cases passes : error.isRetryable = true
          · have same := notice_eq error
              (by omega : number.toNat - 1 + (spare + 1) + 1 = policy.limit)
            rw [attempt_of_passing ran passes, loop_of_remains ran passes remains positive, same,
              ih (number + 1) (by omega) (by omega)]
          · rw [attempt_of_lasting ran passes, loop_of_stops ran fun remains => passes remains.1]

end

theorem run_eq_loop (policy : RetryPolicy) (announce : RetryNotice → Act World EngineError Unit)
    (operation : Act World EngineError Result) :
    run policy announce operation = loop policy announce operation 1 := by
  have counted : (1 : UInt32).toNat + (policy.limit - 1) = policy.limit := by
    have positive := policy.limit_pos
    rw [UInt32.toNat_one]
    omega
  exact attempt_eq_loop (policy.limit - 1) 1 (by decide) counted

/-- For any policy, operation and listener: the run calls the operation as often as the least
number whose outcome settles it or that is the limit says, and comes to that outcome. Each
earlier outcome is an error that is heard of with its number, the limit and its delay, which is
never longer than the longest one. A counter of 32 bits does the same, so it never overflows,
and keeping the record changes nothing. -/
theorem run_calls_until_settled {World Result : Type} (policy : RetryPolicy)
    (hear : RetryNotice → Journaled World → Journaled World)
    (operation : Act World EngineError Result) (start : Journaled World) :
    let outcome := outcomeOf policy hear operation start
    let watched :=
      (run policy (telling (Watched.hearing hear)) (Watched.calling operation)).outcome
        (Watched.start start)
    ∃ errors : List EngineError,
      let calls := errors.length + 1
      IsLeast {k | 0 < k ∧ (Settles (outcome k) ∨ k = policy.limit)} calls ∧
      watched.1 = outcome calls ∧
      watched.2.world.outcomes = errors.map .error ++ [outcome calls] ∧
      (∀ (i : Nat) (earlier : i < errors.length), outcome (i + 1) = .error errors[i]) ∧
      watched.2.world.notices = errors.mapIdx (noticeAfter policy) ∧
      (∀ notice ∈ watched.2.world.notices,
        notice.delay.nanoseconds ≤ policy.maxDelay.nanoseconds) ∧
      calls ≤ policy.limit ∧ policy.limit < UInt32.size ∧
      run policy (telling hear) operation = loop policy (telling hear) operation 1 ∧
      (run policy (telling hear) operation).outcome start =
        (watched.1, Watched.forget watched.2) := by
  intro outcome watched
  have fresh : Due policy hear operation start [] (Watched.start start) :=
    ⟨rfl, rfl, rfl, nofun, nofun⟩
  have counted : ([] : List EngineError).length + (policy.limit - 1) + 1 = policy.limit := by
    have positive := policy.limit_pos
    rw [List.length_nil]
    omega
  obtain ⟨errors, after, due, within, ends, plain, recorded⟩ :=
    attempt_from_due (policy.limit - 1) [] (Watched.start start) fresh counted
  have ran : watched = (Watched.calling operation).outcome after := by
    unfold watched
    rw [run, Act.outcome, recorded]
    rfl
  rw [Watched.calling_outcome] at ran
  have told : watched.2.world.notices = errors.mapIdx (noticeAfter policy) := by
    rw [ran]
    exact due.heard
  refine ⟨errors, due.isLeast within ends, ?_, ?_, due.failed, told, ?_, within,
    policy.limit_lt, run_eq_loop policy _ operation, ?_⟩
  · rw [ran]
    exact due.outcome
  · rw [ran]
    exact congrArg₂ (fun calls last => calls ++ [last]) due.called due.outcome
  · rw [told]
    intro notice member
    obtain ⟨i, earlier, rfl⟩ := List.mem_mapIdx.mp member
    exact policy.delayAfter_le i
  · rw [ran]
    have ended : run policy (telling hear) operation start = operation (Watched.forget after) :=
      plain
    rw [Act.outcome, ended]
    rfl

end Retry

end PackageProvider
