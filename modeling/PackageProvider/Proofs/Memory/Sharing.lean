import Mathlib.Data.List.Induction
import PackageProvider.Proofs.Memory.Calls
import PackageProvider.Proofs.Recorded

set_option autoImplicit false

/-! Several handles on one database, opened and asked in any order. A handle knows what was
asked of it and nothing else, it takes part in the database until it is closed, and once it is
closed it changes nothing. -/

namespace PackageProvider.Memory

open Act

inductive Request where
  | installed (names : List String)
  | available (names : List String)
  | submit (directive : Directive)
  | resolve
  | download (builds : List Build)
  | apply (transaction : Transaction)
  | close
  deriving DecidableEq

namespace Request

def answered {Result : Type} (call : Except EngineError Result → Call)
    (action : Act (Database × Handle) EngineError Result) (handle : Handle)
    (state : Journaled Database) : Call × Handle × Journaled Database :=
  let (answer, left) := action.onHandle handle state
  (call answer, left)

def serve (request : Request) (handle : Handle) (state : Journaled Database) :
    Call × Handle × Journaled Database :=
  match request with
  | installed names => answered (.installed names) (engine.installed names) handle state
  | available names => answered (.available names) (engine.available names) handle state
  | submit directive => answered (.submitted directive) (engine.submit directive) handle state
  | resolve => answered .resolved engine.resolve handle state
  | download builds => answered (.downloaded builds) (engine.download builds) handle state
  | apply transaction => answered (.applied transaction) (engine.apply transaction) handle state
  | close =>
      let left := engine.close ⟨(state.world, handle), state.journal⟩
      (.closed, left.world.2, ⟨left.world.1, left.journal⟩)

end Request

/-- A call that was made through a handle. Handles are numbered as they are opened. -/
structure Event where
  handle : Nat
  call : Call

structure SharedDatabase where
  database : Database
  handles : List Handle := []
  history : List Event := []
  journal : List JournalEntry := []

inductive Step where
  | openHandle
  | ask (handle : Nat) (request : Request)

namespace SharedDatabase

/-- A step and its entry in the history. A handle that was never opened cannot be asked. -/
def step (shared : SharedDatabase) : Step → SharedDatabase
  | .openHandle =>
      let event (answer : Except EngineError Unit) : Event :=
        ⟨shared.handles.length, .opened answer⟩
      match openHandle ⟨shared.database, shared.journal⟩ with
      | .ok handle left =>
          { database := left.world
            handles := shared.handles ++ [handle]
            history := shared.history ++ [event (.ok ())]
            journal := left.journal }
      | .error error left =>
          { shared with
            database := left.world
            history := shared.history ++ [event (.error error)]
            journal := left.journal }
  | .ask number request =>
      match shared.handles[number]? with
      | none => shared
      | some handle =>
          let (call, left, state) := request.serve handle ⟨shared.database, shared.journal⟩
          { database := state.world
            handles := shared.handles.set number left
            history := shared.history ++ [⟨number, call⟩]
            journal := state.journal }

def run (shared : SharedDatabase) (steps : List Step) : SharedDatabase :=
  steps.foldl step shared

end SharedDatabase

/-! ### What a request does -/

def Handle.isOpen (handle : Handle) : Bool := !handle.isClosed

def opens : Call → Bool
  | .opened (.ok _) => true
  | _ => false

def closes : Call → Bool
  | .closed => true
  | _ => false

def submission? : Call → Option Directive
  | .submitted directive (.ok _) => some directive
  | _ => none

def Handle.after (handle : Handle) : Call → Handle
  | .submitted directive (.ok _) => { handle with goal := handle.goal ++ [directive] }
  | .closed => if handle.isClosed then handle else { goal := [], isClosed := true }
  | _ => handle

structure Served (request : Request) (handle : Handle) (database : Database) (call : Call)
    (left : Handle) (after : Database) : Prop where
  leaves : left = handle.after call
  notOpening : opens call = false
  opened : after.counts.opened = database.counts.opened
  closed : after.counts.closed + left.isOpen.toNat = database.counts.closed + handle.isOpen.toNat
  available : after.available = database.available
  requires : after.requires = database.requires
  installed : after.installed = database.installed ∨
    ∃ transaction, request = .apply transaction ∧ call = .applied transaction (.ok ()) ∧
      after.installed = (database.applied transaction).installed

variable {handle : Handle} {database : Database}

theorem Served.of_called {request : Request} {call : Call} (point : FailurePoint)
    (raise : CallCounts → CallCounts) (stays : handle.after call = handle ∧ opens call = false)
    (opened : (raise database.counts).opened = database.counts.opened)
    (closed : (raise database.counts).closed = database.counts.closed) :
    Served request handle database call handle (database.called point raise) where
  leaves := stays.1.symm
  notOpening := stays.2
  opened := opened
  closed := congrArg (· + handle.isOpen.toNat) closed
  available := rfl
  requires := rfl
  installed := .inl rfl

theorem Served.of_nothing {request : Request} {call : Call}
    (stays : handle.after call = handle ∧ opens call = false) :
    Served request handle database call handle database where
  leaves := stays.1.symm
  notOpening := stays.2
  opened := rfl
  closed := rfl
  available := rfl
  requires := rfl
  installed := .inl rfl

theorem query_served {request : Request} {call : Except EngineError (List Build) → Call}
    (stays : ∀ answer, handle.after (call answer) = handle ∧ opens (call answer) = false)
    (builds : Database → List Build)
    (names : List String) (isOpen : handle.isClosed = false) :
    (query builds names).Ensures (database, handle) fun result after =>
      Served request handle database (call result) after.2 after.1 := by
  intro journal
  simp only [outcome, query_apply builds names isOpen]
  cases (database.failures.trip .query).1 with
  | none =>
      let raise (counts : CallCounts) := { counts with queries := counts.queries + 1 }
      exact .of_called .query raise (stays _) rfl rfl
  | some error => exact .of_called .query id (stays _) rfl rfl

theorem submit_served (directive : Directive) (isOpen : handle.isClosed = false) :
    (submit directive).Ensures (database, handle) fun result after =>
      Served (.submit directive) handle database (.submitted directive result) after.2 after.1 := by
  intro journal
  simp only [outcome, submit_apply directive isOpen]
  exact ⟨rfl, rfl, rfl, rfl, rfl, rfl, .inl rfl⟩

theorem resolve_served (isOpen : handle.isClosed = false) :
    resolve.Ensures (database, handle) fun result after =>
      Served .resolve handle database (.resolved result) after.2 after.1 := by
  intro journal
  simp only [outcome, resolve_apply isOpen]
  cases (database.failures.trip .resolve).1 with
  | some error => exact .of_called .resolve id ⟨rfl, rfl⟩ rfl rfl
  | none =>
      let raise (counts : CallCounts) := { counts with resolved := counts.resolved + 1 }
      cases (database.settle {} handle.goal).2 with
      | ok transaction => exact .of_called .resolve raise ⟨rfl, rfl⟩ rfl rfl
      | error error => exact .of_called .resolve raise ⟨rfl, rfl⟩ rfl rfl

theorem download_served (builds : List Build) (isOpen : handle.isClosed = false) :
    (download builds).Ensures (database, handle) fun result after =>
      Served (.download builds) handle database (.downloaded builds result) after.2 after.1 := by
  intro journal
  simp only [outcome, download_apply builds isOpen]
  cases (database.failures.trip .download).1 with
  | some error => exact .of_called .download id ⟨rfl, rfl⟩ rfl rfl
  | none =>
      let raise (counts : CallCounts) := { counts with downloads := counts.downloads + 1 }
      cases builds.find? fun build => !database.available.contains build with
      | none => exact .of_called .download raise ⟨rfl, rfl⟩ rfl rfl
      | some missing => exact .of_called .download raise ⟨rfl, rfl⟩ rfl rfl

theorem apply_served (transaction : Transaction) (isOpen : handle.isClosed = false) :
    (apply transaction).Ensures (database, handle) fun result after =>
      Served (.apply transaction) handle database (.applied transaction result) after.2
        after.1 := by
  intro journal
  simp only [outcome, apply_apply transaction isOpen]
  cases (database.failures.trip .apply).1 with
  | some error => exact .of_called .apply id ⟨rfl, rfl⟩ rfl rfl
  | none => exact ⟨rfl, rfl, rfl, rfl, rfl, rfl, .inr ⟨transaction, rfl, rfl, rfl⟩⟩

theorem close_served (isOpen : handle.isClosed = false) (journal : List JournalEntry) :
    let left := close ⟨(database, handle), journal⟩
    Served .close handle database .closed left.world.2 left.world.1 := by
  simp only [close, isOpen]
  refine ⟨?_, rfl, rfl, ?_, rfl, rfl, .inl rfl⟩
  · simp only [Handle.after, isOpen, Bool.false_eq_true, if_false]
  · simp [Handle.isOpen, isOpen]

namespace Request

theorem answered_of_error {Result : Type} {call : Except EngineError Result → Call}
    {action : Act (Database × Handle) EngineError Result} {journal : List JournalEntry}
    {error : EngineError} {left : Journaled (Database × Handle)}
    (ran : action ⟨(database, handle), journal⟩ = .error error left) :
    answered call action handle ⟨database, journal⟩ =
      (call (.error error), left.world.2, ⟨left.world.1, left.journal⟩) := by
  simp only [answered, onHandle, outcome, ran]

/-- A closed handle refuses everything but to be closed again, and all stays as it is. -/
theorem serve_of_closed (request : Request) (database : Database)
    (isClosed : handle.isClosed = true) (journal : List JournalEntry) :
    ∃ call, request.serve handle ⟨database, journal⟩ = (call, handle, ⟨database, journal⟩) ∧
      (handle.after call = handle ∧ opens call = false) ∧
      (request ≠ .close → call.error? = some .handleClosed) := by
  cases request with
  | installed names =>
      exact ⟨_, answered_of_error (query_of_closed _ _ isClosed _), ⟨rfl, rfl⟩, fun _ => rfl⟩
  | available names =>
      exact ⟨_, answered_of_error (query_of_closed _ _ isClosed _), ⟨rfl, rfl⟩, fun _ => rfl⟩
  | submit directive =>
      exact ⟨_, answered_of_error (submit_of_closed _ isClosed _), ⟨rfl, rfl⟩, fun _ => rfl⟩
  | resolve => exact ⟨_, answered_of_error (resolve_of_closed isClosed _), ⟨rfl, rfl⟩, fun _ => rfl⟩
  | download builds =>
      exact ⟨_, answered_of_error (download_of_closed _ isClosed _), ⟨rfl, rfl⟩, fun _ => rfl⟩
  | apply transaction =>
      exact ⟨_, answered_of_error (apply_of_closed _ isClosed _), ⟨rfl, rfl⟩, fun _ => rfl⟩
  | close =>
      refine ⟨.closed, ?_, ⟨if_pos isClosed, rfl⟩, fun other => (other rfl).elim⟩
      simp only [serve, engine, Memory.close, isClosed, if_true]

theorem serve_served (request : Request) (handle : Handle) (database : Database)
    (journal : List JournalEntry) :
    let (call, left, state) := request.serve handle ⟨database, journal⟩
    Served request handle database call left state.world := by
  cases isOpen : handle.isClosed with
  | true =>
      obtain ⟨call, served, stays, -⟩ :=
        serve_of_closed request database isOpen journal
      rw [served]
      exact .of_nothing stays
  | false =>
      cases request with
      | installed names =>
          exact query_served (fun _ => ⟨rfl, rfl⟩) Database.installed names isOpen journal
      | available names =>
          exact query_served (fun _ => ⟨rfl, rfl⟩) Database.available names isOpen journal
      | submit directive => exact submit_served directive isOpen journal
      | resolve => exact resolve_served isOpen journal
      | download builds => exact download_served builds isOpen journal
      | apply transaction => exact apply_served transaction isOpen journal
      | close => exact close_served isOpen journal

end Request

/-! ### What a history says about the handles -/

namespace SharedDatabase

def callsThrough (history : List Event) (number : Nat) : List Call :=
  (history.filter fun event => event.handle == number).map Event.call

/-- The handle with all calls of the history through it. -/
def recalled (history : List Event) (number : Nat) : Handle :=
  (callsThrough history number).foldl Handle.after {}

def openings (history : List Event) : Nat :=
  history.countP fun event => opens event.call

def openNumbers (history : List Event) : List Nat :=
  (List.range (openings history)).filter fun number =>
    !(callsThrough history number).any closes

def submittedThrough (history : List Event) (number : Nat) : List Directive :=
  (callsThrough history number).filterMap submission?

theorem recalled_concat (history : List Event) (event : Event) (number : Nat) :
    recalled (history ++ [event]) number =
      if event.handle = number then (recalled history number).after event.call
      else recalled history number := by
  simp only [recalled, callsThrough, List.filter_append, List.map_append, List.foldl_append]
  by_cases same : event.handle = number
  · simp [same]
  · simp [same]

theorem openings_concat (history : List Event) (event : Event) :
    openings (history ++ [event]) = openings history + (opens event.call).toNat := by
  rw [openings, List.countP_append, ← openings, List.countP_singleton]
  cases opens event.call <;> rfl

structure Accounted (shared : SharedDatabase) : Prop where
  length : shared.handles.length = openings shared.history
  recalls : ∀ number handle, shared.handles[number]? = some handle →
    handle = recalled shared.history number
  unopened : ∀ number, shared.handles.length ≤ number → recalled shared.history number = {}
  opened : shared.database.counts.opened = openings shared.history
  balance : shared.database.counts.closed + shared.handles.countP Handle.isOpen =
    openings shared.history

variable {shared : SharedDatabase}

theorem step_ask_of_none {number : Nat} (missing : shared.handles[number]? = none)
    (request : Request) : shared.step (.ask number request) = shared := by
  simp only [step, missing]

theorem step_ask_of_some {number : Nat} {handle : Handle}
    (found : shared.handles[number]? = some handle) (request : Request) :
    shared.step (.ask number request) =
      let (call, left, state) := request.serve handle ⟨shared.database, shared.journal⟩
      { database := state.world
        handles := shared.handles.set number left
        history := shared.history ++ [⟨number, call⟩]
        journal := state.journal } := by
  simp only [step, found]

theorem step_ask_cases (shared : SharedDatabase) (number : Nat) (request : Request) :
    shared.step (.ask number request) = shared ∨
      ∃ handle call left, ∃ state : Journaled Database, shared.handles[number]? = some handle ∧
        Served request handle shared.database call left state.world ∧
        shared.step (.ask number request) =
          { database := state.world
            handles := shared.handles.set number left
            history := shared.history ++ [⟨number, call⟩]
            journal := state.journal } := by
  cases found : shared.handles[number]? with
  | none => exact .inl (step_ask_of_none found request)
  | some handle =>
      have served := request.serve_served handle shared.database shared.journal
      exact .inr ⟨handle, _, _, _, rfl, served, step_ask_of_some found request⟩

theorem countP_set_isOpen {handles : List Handle} {number : Nat} {handle : Handle}
    (found : handles[number]? = some handle) (left : Handle) :
    (handles.set number left).countP Handle.isOpen + handle.isOpen.toNat =
      handles.countP Handle.isOpen + left.isOpen.toNat := by
  obtain ⟨within, same⟩ := List.getElem?_eq_some_iff.mp found
  have counted : handle.isOpen.toNat ≤ handles.countP Handle.isOpen := by
    cases isOpen : handle.isOpen with
    | false => exact Nat.zero_le _
    | true => exact List.countP_pos_iff.mpr ⟨handle, List.mem_of_getElem? found, isOpen⟩
  have weight (flag : Bool) : (if flag = true then 1 else 0) = flag.toNat := by
    cases flag <;> rfl
  rw [List.countP_set within, same, weight, weight]
  omega

theorem Accounted.openHandle (accounted : Accounted shared) :
    Accounted (shared.step .openHandle) := by
  have sameRecalls (answer : Except EngineError Unit) (number : Nat) :
      recalled (shared.history ++ [⟨shared.handles.length, .opened answer⟩]) number =
        recalled shared.history number := by
    rw [recalled_concat]
    exact ite_id _
  rw [step, openHandle_apply]
  cases (shared.database.failures.trip .opening).1 with
  | none =>
      constructor
      · rw [openings_concat, List.length_append, accounted.length]
        rfl
      · intro number handle found
        rw [sameRecalls]
        rcases Nat.lt_or_ge number shared.handles.length with within | beyond
        · rw [List.getElem?_append_left within] at found
          exact accounted.recalls number handle found
        · rw [List.getElem?_append_right beyond] at found
          rw [List.mem_singleton.mp (List.mem_of_getElem? found),
            accounted.unopened number beyond]
      · intro number beyond
        rw [sameRecalls]
        rw [List.length_append] at beyond
        exact accounted.unopened number (by omega)
      · rw [openings_concat]
        exact congrArg (· + 1) accounted.opened
      · rw [openings_concat, List.countP_append, ← accounted.balance, Nat.add_assoc]
        rfl
  | some error =>
      constructor
      · rw [openings_concat]
        exact accounted.length
      · intro number handle found
        rw [sameRecalls]
        exact accounted.recalls number handle found
      · intro number beyond
        rw [sameRecalls]
        exact accounted.unopened number beyond
      · rw [openings_concat]
        exact accounted.opened
      · rw [openings_concat]
        exact accounted.balance

theorem Accounted.ask (accounted : Accounted shared) (number : Nat) (request : Request) :
    Accounted (shared.step (.ask number request)) := by
  rcases shared.step_ask_cases number request with
    same | ⟨handle, call, left, state, found, served, steps⟩
  · rwa [same]
  · rw [steps]
    have within := (List.getElem?_eq_some_iff.mp found).1
    have sameOpenings :
        openings (shared.history ++ [⟨number, call⟩]) = openings shared.history := by
      rw [openings_concat, served.notOpening]
      rfl
    constructor
    · rw [List.length_set, sameOpenings]
      exact accounted.length
    · intro other handleThere foundThere
      rw [recalled_concat]
      by_cases same : number = other
      · subst same
        rw [List.getElem?_set_self within] at foundThere
        cases foundThere
        rw [if_pos rfl, served.leaves, ← accounted.recalls number handle found]
      · rw [List.getElem?_set_ne same] at foundThere
        rw [if_neg same]
        exact accounted.recalls other handleThere foundThere
    · intro other beyond
      rw [List.length_set] at beyond
      have apart : number ≠ other := Nat.ne_of_lt (Nat.lt_of_lt_of_le within beyond)
      rw [recalled_concat, if_neg apart]
      exact accounted.unopened other beyond
    · rw [sameOpenings]
      exact served.opened.trans accounted.opened
    · have counts := countP_set_isOpen found left
      have closed := served.closed
      have balance := accounted.balance
      rw [sameOpenings]
      simp only at counts closed ⊢
      omega

theorem Accounted.run (accounted : Accounted shared) (steps : List Step) :
    Accounted (shared.run steps) := by
  induction steps generalizing shared with
  | nil => exact accounted
  | cons step rest ih =>
      rw [SharedDatabase.run, List.foldl_cons]
      cases step with
      | openHandle => exact ih accounted.openHandle
      | ask number request => exact ih (accounted.ask number request)

/-! ### Calls through one handle -/

theorem isOpen_after (handle : Handle) (call : Call) :
    (handle.after call).isOpen = (handle.isOpen && !closes call) := by
  cases call with
  | submitted directive answer => cases answer <;> simp [Handle.after, Handle.isOpen, closes]
  | closed =>
      cases isClosed : handle.isClosed <;> simp [Handle.after, Handle.isOpen, closes, isClosed]
  | _ => simp [Handle.after, closes]

theorem goal_after (handle : Handle) {call : Call} (unclosed : closes call = false) :
    (handle.after call).goal = handle.goal ++ (submission? call).toList := by
  cases call with
  | submitted directive answer => cases answer <;> simp [Handle.after, submission?]
  | closed => cases unclosed
  | _ => simp [Handle.after, submission?]

theorem foldl_after_isOpen (calls : List Call) (handle : Handle) :
    (calls.foldl Handle.after handle).isOpen = (handle.isOpen && !calls.any closes) := by
  induction calls generalizing handle with
  | nil => rw [List.any_nil, Bool.not_false, Bool.and_true, List.foldl_nil]
  | cons call rest ih =>
      rw [List.foldl_cons, ih, isOpen_after, List.any_cons, Bool.not_or, Bool.and_assoc]

theorem foldl_after_goal {calls : List Call} (handle : Handle)
    (unclosed : calls.any closes = false) :
    (calls.foldl Handle.after handle).goal = handle.goal ++ calls.filterMap submission? := by
  induction calls generalizing handle with
  | nil => rw [List.filterMap_nil, List.append_nil, List.foldl_nil]
  | cons call rest ih =>
      rw [List.any_cons, Bool.or_eq_false_iff] at unclosed
      rw [List.foldl_cons, ih _ unclosed.2, goal_after handle unclosed.1, List.append_assoc,
        List.filterMap_cons]
      cases submission? call <;> rfl

theorem mem_openNumbers {history : List Event} {number : Nat} :
    number ∈ openNumbers history ↔
      number < openings history ∧ (callsThrough history number).any closes = false := by
  rw [openNumbers, List.mem_filter, List.mem_range, Bool.not_eq_true']

namespace Accounted

variable (accounted : Accounted shared)

include accounted

theorem isOpen_iff {number : Nat} {handle : Handle}
    (found : shared.handles[number]? = some handle) :
    handle.isOpen = true ↔ number ∈ openNumbers shared.history := by
  have within := (List.getElem?_eq_some_iff.mp found).1
  rw [accounted.length] at within
  rw [accounted.recalls number handle found, recalled, foldl_after_isOpen, mem_openNumbers]
  simp [Handle.isOpen, within]

theorem countP_isOpen :
    shared.handles.countP Handle.isOpen = (openNumbers shared.history).length := by
  have handles : shared.handles =
      (List.range (openings shared.history)).map (recalled shared.history) := by
    refine List.ext_getElem? fun number => ?_
    cases found : shared.handles[number]? with
    | none =>
        have beyond := List.getElem?_eq_none_iff.mp found
        rw [accounted.length] at beyond
        simp [beyond]
    | some handle =>
        have within := (List.getElem?_eq_some_iff.mp found).1
        rw [accounted.length] at within
        simp [within, accounted.recalls number handle found]
  rw [handles, List.countP_map, List.countP_eq_length_filter, openNumbers]
  congr 2
  funext number
  rw [Function.comp_apply, recalled, foldl_after_isOpen]
  rfl

theorem handle_of_open {number : Nat} (isOpen : number ∈ openNumbers shared.history) :
    ∃ handle, shared.handles[number]? = some handle ∧ handle.isClosed = false ∧
      handle.goal = submittedThrough shared.history number := by
  obtain ⟨within, unclosed⟩ := mem_openNumbers.mp isOpen
  rw [← accounted.length] at within
  have found : shared.handles[number]? = some shared.handles[number] :=
    List.getElem?_eq_getElem within
  have stillOpen := (accounted.isOpen_iff found).mpr isOpen
  have recalls := accounted.recalls number _ found
  refine ⟨_, found, by simpa [Handle.isOpen] using stillOpen, ?_⟩
  rw [recalls, recalled, foldl_after_goal {} unclosed, submittedThrough]
  exact List.nil_append _

end Accounted

/-! ### Handles do not get in each other's way -/

theorem step_database (shared : SharedDatabase) (step : Step) :
    let after := shared.step step
    after.database.available = shared.database.available ∧
      after.database.requires = shared.database.requires ∧
      (after.database.installed = shared.database.installed ∨
        ∃ number transaction, step = .ask number (.apply transaction) ∧
          after.history = shared.history ++ [⟨number, .applied transaction (.ok ())⟩] ∧
          after.database.installed = (shared.database.applied transaction).installed) := by
  cases step with
  | openHandle =>
      simp only [SharedDatabase.step, openHandle_apply]
      cases (shared.database.failures.trip .opening).1 with
      | none => exact ⟨rfl, rfl, .inl rfl⟩
      | some error => exact ⟨rfl, rfl, .inl rfl⟩
  | ask number request =>
      rcases shared.step_ask_cases number request with
        same | ⟨handle, call, left, state, found, served, steps⟩
      · rw [same]
        exact ⟨rfl, rfl, .inl rfl⟩
      · rw [steps]
        refine ⟨served.available, served.requires, ?_⟩
        rcases served.installed with same | ⟨transaction, asked, answered, installs⟩
        · exact .inl same
        · refine .inr ⟨number, transaction, ?_, ?_, installs⟩
          · rw [asked]
          · rw [← answered]

structure Isolated (shared : SharedDatabase) : Prop where
  balance : shared.database.counts.opened =
    shared.database.counts.closed + (openNumbers shared.history).length
  refuses : ∀ number < openings shared.history, number ∉ openNumbers shared.history →
    ∀ request, ∃ call,
      shared.step (.ask number request) =
          { shared with history := shared.history ++ [⟨number, call⟩] } ∧
        (request ≠ .close → call.error? = some .handleClosed)
  submits : ∀ number ∈ openNumbers shared.history, ∀ directive,
    (shared.step (.ask number (.submit directive))).history =
      shared.history ++ [⟨number, .submitted directive (.ok ())⟩]
  /-- What was submitted through other handles plays no part. -/
  resolves : ∀ number ∈ openNumbers shared.history, ¬ shared.database.failures.Armed .resolve →
    (shared.step (.ask number .resolve)).history =
      shared.history ++ [⟨number,
        .resolved (shared.database.resolution (submittedThrough shared.history number))⟩]
  installs : ∀ step,
    let after := shared.step step
    after.database.available = shared.database.available ∧
      after.database.requires = shared.database.requires ∧
      (after.database.installed = shared.database.installed ∨
        ∃ number transaction, step = .ask number (.apply transaction) ∧
          after.history = shared.history ++ [⟨number, .applied transaction (.ok ())⟩] ∧
          after.database.installed = (shared.database.applied transaction).installed)

theorem Accounted.isolated (accounted : Accounted shared) : Isolated shared := by
  constructor
  · rw [accounted.opened, ← accounted.balance, accounted.countP_isOpen]
  · intro number within notOpen request
    rw [← accounted.length] at within
    have found : shared.handles[number]? = some shared.handles[number] :=
      List.getElem?_eq_getElem within
    have isClosed : shared.handles[number].isClosed = true := by
      have shut := mt (accounted.isOpen_iff found).mp notOpen
      simpa [Handle.isOpen] using shut
    obtain ⟨call, served, -, refused⟩ :=
      request.serve_of_closed shared.database isClosed shared.journal
    refine ⟨call, ?_, refused⟩
    rw [step_ask_of_some found, served]
    simp only [List.set_getElem_self]
  · intro number isOpen directive
    obtain ⟨handle, found, stillOpen, -⟩ := accounted.handle_of_open isOpen
    have answer := (@submit_ensures shared.database handle directive stillOpen shared.journal).1
    rw [step_ask_of_some found]
    exact congrArg (fun answer => shared.history ++ [⟨number, .submitted directive answer⟩]) answer
  · intro number isOpen calm
    obtain ⟨handle, found, stillOpen, goal⟩ := accounted.handle_of_open isOpen
    have answer := resolve_outcome_of_not_armed stillOpen calm shared.journal
    rw [goal] at answer
    rw [step_ask_of_some found]
    exact congrArg (fun answer => shared.history ++ [⟨number, .resolved answer⟩]) answer
  · exact step_database shared

end SharedDatabase

theorem shared_handles_isolated (installed available : List Build)
    (requires : List (String × String)) (failures : FailureRules) (steps : List Step) :
    let fresh : SharedDatabase := { database := { installed, available, requires, failures } }
    (fresh.run steps).Isolated := by
  intro fresh
  have start : fresh.Accounted := by
    constructor
    · rfl
    · intro number handle found
      cases found
    · intro number beyond
      rfl
    · rfl
    · rfl
  exact (start.run steps).isolated

def twoHandles : List Step :=
  [.openHandle, .openHandle, .ask 0 (.submit ⟨.install, "curl"⟩),
    .ask 1 (.submit ⟨.install, "git"⟩), .ask 0 .close, .ask 0 .resolve, .ask 0 .close]

theorem twoHandles_isolated :
    let fresh : SharedDatabase := { database := { available := [⟨"git", "2-1", "x86_64"⟩] } }
    let shared := fresh.run twoHandles
    SharedDatabase.openNumbers shared.history = [1] ∧
      shared.database.counts.opened = shared.database.counts.closed + 1 ∧
      (shared.step (.ask 1 .resolve)).history =
        shared.history ++
          [⟨1, .resolved (shared.database.resolution [⟨.install, "git"⟩])⟩] := by
  intro fresh shared
  have isolated : shared.Isolated := shared_handles_isolated [] _ [] {} twoHandles
  have isOpen : SharedDatabase.openNumbers shared.history = [1] := by
    decide
  have submitted :
      SharedDatabase.submittedThrough shared.history 1 = [⟨.install, "git"⟩] := by
    decide
  refine ⟨isOpen, ?_, ?_⟩
  · have balance := isolated.balance
    rwa [isOpen] at balance
  · rw [← submitted]
    refine isolated.resolves 1 (by rw [isOpen]; exact List.mem_singleton_self 1) ?_
    rintro ⟨rule, found, -⟩
    cases found

end PackageProvider.Memory
