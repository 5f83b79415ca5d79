import PackageProvider.EngineError
import PackageProvider.Journal
import PackageProvider.Transaction

set_option autoImplicit false

/-! What a package engine can do. An engine acts on a world of its own choosing through
handles; a handle collects a goal and can be closed, after which it refuses everything. -/

namespace PackageProvider

/-- The operations of an engine. Those on a handle act on the world and the handle
together; closing cannot fail. -/
structure Engine (World Handle : Type) where
  openHandle : Act World EngineError Handle
  /-- The installed builds with these names, all of them if no name is given. -/
  installed : List String → Act (World × Handle) EngineError (List Build)
  available : List String → Act (World × Handle) EngineError (List Build)
  submit : Directive → Act (World × Handle) EngineError Unit
  resolve : Act (World × Handle) EngineError Transaction
  download : List Build → Act (World × Handle) EngineError Unit
  apply : Transaction → Act (World × Handle) EngineError Unit
  close : Journaled (World × Handle) → Journaled (World × Handle)

namespace Act

variable {World Handle Error Result : Type}

def onHandle (action : Act (World × Handle) Error Result) (handle : Handle)
    (state : Journaled World) : Except Error Result × Handle × Journaled World :=
  let (result, after) := action.outcome ⟨(state.world, handle), state.journal⟩
  (result, after.world.2, ⟨after.world.1, after.journal⟩)

end Act

namespace Engine

variable {World Handle Error Result : Type}

def openSession (engine : Engine World Handle) : Act World EngineError Handle := do
  let handle ← engine.openHandle
  Act.note .debug "Engine session opened"
  return handle

def endSession (engine : Engine World Handle) (state : Journaled (World × Handle)) :
    Journaled (World × Handle) :=
  let closed := engine.close state
  { closed with journal := closed.journal ++ [⟨.debug, "Engine session closed"⟩] }

/-- Runs `body` in a session of its own, which ends whatever the outcome. -/
def inSession (engine : Engine World Handle) (rename : EngineError → Error)
    (body : Act (World × Handle) Error Result) : Act World Error Result := fun state =>
  match engine.openSession state with
  | .error error state => .error (rename error) state
  | .ok handle state =>
      let (result, after) := body.outcome ⟨(state.world, handle), state.journal⟩
      let ended := engine.endSession after
      let left : Journaled World := ⟨ended.world.1, ended.journal⟩
      match result with
      | .ok value => .ok value left
      | .error error => .error error left

end Engine

end PackageProvider
