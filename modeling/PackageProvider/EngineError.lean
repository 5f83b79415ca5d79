import PackageProvider.Text.Blank
import PackageProvider.Text.LetterCase

set_option autoImplicit false

/-! Why an engine fails: the causes, the wording of each, the category that decides
whether trying again makes sense, and how the complaints of an engine are classified. -/

namespace PackageProvider

inductive EngineError where
  | network (message : String)
  | notFound (spec : String)
  | conflict (message : String)
  | permission (message : String)
  | engineMissing (program : String)
  | handleClosed
  | commandFailed (message complaint : String)
  | unreadableOutput (message : String)
  | io (message : String)
  | other (message : String)
  deriving DecidableEq, Repr, Inhabited

inductive ErrorCategory where
  | network
  | notFound
  | conflict
  | permission
  | engineMissing
  | other
  deriving DecidableEq, Repr, Inhabited

def ErrorCategory.isRetryable (category : ErrorCategory) : Bool := category == .network

def ErrorCategory.error (category : ErrorCategory) (text : String) : EngineError :=
  match category with
  | .network => .network text
  | .notFound => .notFound text
  | .conflict => .conflict text
  | .permission => .permission text
  | .engineMissing => .engineMissing text
  | .other => .other text

namespace EngineError

def message : EngineError → String
  | network message => "network error: " ++ message
  | notFound spec => "no package matched: " ++ spec
  | conflict message => "conflict: " ++ message
  | permission message => "permission denied: " ++ message
  | engineMissing program => "package engine not found: " ++ program
  | handleClosed => "engine handle already closed"
  | commandFailed message complaint => message ++ ": " ++ complaint
  | unreadableOutput message => "unexpected engine output: " ++ message
  | io message => "IO error: " ++ message
  | other message => message

instance : ToString EngineError := ⟨message⟩

def category : EngineError → ErrorCategory
  | network _ => .network
  | notFound _ => .notFound
  | conflict _ => .conflict
  | permission _ => .permission
  | engineMissing _ => .engineMissing
  | handleClosed | commandFailed .. | unreadableOutput _ | io _ | other _ => .other

def isRetryable (error : EngineError) : Bool := error.category.isRetryable

def networkPhrases : List String :=
  ["curl error", "could not resolve host", "failed to download", "cannot download", "timed out",
    "checksum doesn't match", "failed to synchronize cache"]

def notFoundPhrases : List String := ["no match for argument", "unable to find a match"]

/-- Phrases of an engine that knows no such package only if both are there. -/
def noPackageAvailable : List String := ["no package", "available"]

def conflictPhrases : List String :=
  ["problem:", "conflicting requests", "conflicts with", "nothing provides", "depsolve"]

def permissionPhrases : List String :=
  ["permission denied", "operation not permitted",
    "this command has to be run with superuser"]

def mentions (complaint : List Char) (phrase : String) : Bool := Text.occurs phrase.toList complaint

/-- The category of a complaint. Letter case does not matter, and of the phrases in it
those of the first category in the order network, not found, conflict and permission
decide. -/
def categoryOfComplaint (complaint : String) : ErrorCategory :=
  let lowered := Text.lower complaint.toList
  if networkPhrases.any (mentions lowered) then .network
  else if notFoundPhrases.any (mentions lowered) then .notFound
  else if noPackageAvailable.all (mentions lowered) then .notFound
  else if conflictPhrases.any (mentions lowered) then .conflict
  else if permissionPhrases.any (mentions lowered) then .permission
  else .other

/-- What an engine's complaint amounts to. The complaint is quoted without the blanks
around it, and the spec it is about stands in for a missing package if it is known. -/
def ofComplaint (complaint : String) (spec? : Option String) : EngineError :=
  let quoted := String.ofList (Text.trim complaint.toList)
  match categoryOfComplaint complaint with
  | .network => network quoted
  | .notFound => notFound (spec?.getD "unknown")
  | .conflict => conflict quoted
  | .permission => permission quoted
  | .engineMissing | .other =>
      let about := match spec? with
        | some spec => "engine command failed for " ++ spec
        | none => "engine command failed"
      commandFailed about quoted

end EngineError

end PackageProvider
