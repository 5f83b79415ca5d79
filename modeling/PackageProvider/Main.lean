import PackageProvider.Program

set_option autoImplicit false

/-! The command line. What the program needs to know of the machine is gathered first: its
arguments, its environment, the files of settings, where dnf is, and its input. Programs
cannot be started from here, so dnf is found but every run of it is reported as failed. -/

namespace PackageProvider.CommandLine

def readFile (path : String) : IO (Option ByteArray) := do
  try
    return some (← IO.FS.readBinFile path)
  catch _ => return none

def isFile (path : String) : IO Bool := do
  let place := (← IO.currentDir) / path
  return (← place.pathExists) && !(← place.isDir)

def lookAt {Found : Type} (look : String → IO Found) (paths : List String) :
    IO (List (String × Found)) :=
  paths.mapM fun path => do return (path, ← look path)

def found? {Found : Type} (table : List (String × Found)) (path : String) : Option Found :=
  (table.find? fun entry => entry.1 == path).map (·.2)

/-- The directory for the user's settings: the one that the environment names, if it names
it from the root on, or the usual one in the user's home. -/
def settingsDirectory : IO (Option String) := do
  match ← IO.getEnv "XDG_CONFIG_HOME" with
  | some directory => if directory.startsWith "/" then return some directory
  | none => pure ()
  return (← IO.getEnv "HOME").map fun home => home ++ "/.config"

def filesFor (named : Option String) : IO Files := do
  let userConfig := (← settingsDirectory).map fun directory => directory ++ "/ralpkg/config.toml"
  let paths := named.toList ++ Config.systemPath :: userConfig.toList
  let contents ← lookAt readFile paths
  return {
    has := fun path => ((found? contents path).bind id).isSome
    read := fun path => (found? contents path).bind id
    userConfig }

def hostFor (settings : Config) : IO (Dnf.Host Unit) := do
  let searchPath := (← IO.getEnv "PATH").map fun path => path.splitOn ":"
  let places ← lookAt isFile (Dnf.Host.candidates searchPath settings.dnf.binary)
  return {
    isFile := fun path => (found? places path).getD false
    searchPath
    launch := fun _ world => (.error "Operation not permitted (os error 1)", world) }

def effectiveUid : IO Nat := do
  let status := ((← readFile "/proc/self/status").bind String.fromUTF8?).getD ""
  let ids? := (Text.lines status.toList).findSome? (Text.after? "Uid:".toList)
  let words := (ids?.map Text.words).getD []
  return ((words[1]?).bind fun word => (String.ofList word).toNat?).getD 65534

partial def readAll (stream : IO.FS.Stream) (before : ByteArray) : IO ByteArray := do
  let chunk ← stream.read 65536
  if chunk.isEmpty then return before else readAll stream (before ++ chunk)

/-- Describing needs no input, so none is waited for. -/
def inputFor (action : Option Action) : IO ByteArray := do
  match action with
  | some .get | some .set => readAll (← IO.getStdin) ByteArray.empty
  | some .describe | none => return ByteArray.empty

end PackageProvider.CommandLine

open PackageProvider PackageProvider.CommandLine in
def main (arguments : List String) : IO UInt32 := do
  let configVariable ← IO.getEnv "RALPKG_CONFIG"
  let read := (Arguments.read arguments configVariable).toOption.getD {}
  let files ← filesFor read.config
  let settings := (Config.load files read.config).toOption.getD {}
  let around : Surroundings Unit :=
    { host := ← hostFor settings
      files
      configVariable
      effectiveUid := ← effectiveUid
      input := ← inputFor (read.action.bind Action.ofArgument?) }
  let (ending, after) := Program.main around arguments ()
  for entry in after.journal do
    if entry.level.isShownAt (Program.threshold read.verbosity) then IO.eprintln (toString entry)
  if let some failure := ending.failure then IO.eprintln ("Error: " ++ failure.message)
  IO.print ending.written
  return UInt32.ofNat ending.exitCode
