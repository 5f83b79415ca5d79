import PackageProvider.EngineError

set_option autoImplicit false

/-! What dnf's shell says went wrong. The shell reports a line of the script that fails and
goes on with the next, so neither a table nor the exit code proves that all went well. -/

namespace PackageProvider.Dnf

/-- Whether a line, without the blanks around it, says that some line of the script failed.
That the user's answer was no is not a failure. -/
def reportsFailure (line : List Char) : Bool :=
  "No match for argument".toList.isPrefixOf line
    || ("Error:".toList.isPrefixOf line && !Text.occurs "Operation aborted".toList line)

def unmatchedIn? (line : List Char) : Option String :=
  let rest? := (Text.after? "No match for argument:".toList line).orElse fun _ =>
    Text.after? "Unable to find a match:".toList line
  rest?.bind fun rest => (Text.words rest).head?.map String.ofList

def unmatchedSpec? (complaint : List Char) : Option String :=
  (Text.lines complaint).findSome? unmatchedIn?

def goalFailure? (complaint : List Char) : Option EngineError :=
  if (Text.lines complaint).any fun line => reportsFailure (Text.trim line) then
    some (.ofComplaint (String.ofList complaint) (unmatchedSpec? complaint))
  else none

end PackageProvider.Dnf
