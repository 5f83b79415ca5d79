import PackageProvider.Text.Utf8

set_option autoImplicit false

/-! The machine that dnf runs on: finding the program, writing its scripts and running it. What
comes of that is up to the machine, so nothing here assumes a particular dnf. -/

namespace PackageProvider.Dnf

/-- One run of a program. A script is handed over as a file, whose path comes after the
other arguments. -/
structure Invocation where
  program : String
  arguments : List String
  script : Option String
  deriving DecidableEq, Repr, Inhabited

structure Output where
  exitCode : Int
  out : List UInt8
  err : List UInt8
  deriving DecidableEq, Repr, Inhabited

namespace Output

def outText (output : Output) : List Char := Text.decodeUtf8 output.out

def errText (output : Output) : List Char := Text.decodeUtf8 output.err

def isSuccess (output : Output) : Bool := output.exitCode == 0

end Output

/-- A machine: which paths are files, where programs are looked for (nowhere if no search
path is set), what running one does and whether a text can be put into a new file. What does
not work gives a reason. -/
structure Host (World : Type) where
  isFile : String → Bool
  searchPath : Option (List String)
  launch : Invocation → World → Except String Output × World
  save : String → World → Except String Unit × World := fun _ world => (.ok (), world)

namespace Host

variable {World : Type}

/-- The paths that a program may have: a name with a slash is a path already, and any other
name may be in each directory of the search path. -/
def candidates (searchPath : Option (List String)) (program : String) : List String :=
  if program.toList.contains '/' then [program]
  else
    (searchPath.getD []).map fun directory =>
      if directory.isEmpty || directory.endsWith "/" then directory ++ program
      else directory ++ "/" ++ program

def find? (host : Host World) (program : String) : Option String :=
  (candidates host.searchPath program).find? host.isFile

end Host

end PackageProvider.Dnf
