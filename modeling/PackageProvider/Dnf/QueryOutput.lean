import PackageProvider.EngineError
import PackageProvider.Transaction

set_option autoImplicit false

/-! What a query prints: one line for each build, its name, EVR and architecture parted
by tabs. -/

namespace PackageProvider.Dnf

def queryFormat : String := "%\x7bname\x7d\t%\x7bevr\x7d\t%\x7barch\x7d\n"

def buildOfLine (line : List Char) : Except EngineError Build :=
  match Text.splitWhere (· == '\t') line with
  | name :: evr :: arch :: _ =>
      let field (chars : List Char) := String.ofList (Text.trim chars)
      .ok ⟨field name, field evr, field arch⟩
  | _ => .error (.unreadableOutput ("bad repoquery line: " ++ String.ofList line))

/-- The builds on the lines that are not blank; the first line that holds no build is an
error. -/
def readQueryOutput (text : List Char) : Except EngineError (List Build) :=
  ((Text.lines text).filter fun line => !Text.allBlank line).mapM buildOfLine

end PackageProvider.Dnf
