set_option autoImplicit false

/-! The command line: flags, the path of the settings, and one action. The arguments are
taken from left to right, and the first thing that is wrong, or the first request for help
or the version, ends the reading. -/

namespace PackageProvider

structure Arguments where
  verbosity : Nat := 0
  config : Option String := none
  action : Option String := none
  deriving DecidableEq, Repr, Inhabited

inductive ArgumentStop where
  | help
  | version
  | misuse
  deriving DecidableEq, Repr, Inhabited

namespace ArgumentStop

def exitCode : ArgumentStop → Nat
  | help | version => 0
  | misuse => 1

end ArgumentStop

namespace Arguments

def largestVerbosity : Nat := 255

def moreVerbose (arguments : Arguments) : Arguments :=
  { arguments with verbosity := min (arguments.verbosity + 1) largestVerbosity }

def setConfig (arguments : Arguments) (path : String) : Except ArgumentStop Arguments :=
  if path.isEmpty || arguments.config.isSome then .error .misuse
  else .ok { arguments with config := some path }

def setAction (arguments : Arguments) (action : String) : Except ArgumentStop Arguments :=
  if arguments.action.isSome then .error .misuse else .ok { arguments with action := some action }

def takeFlags (arguments : Arguments) : List Char → Except ArgumentStop Arguments
  | [] => .ok arguments
  | 'v' :: rest => takeFlags arguments.moreVerbose rest
  | 'h' :: _ => .error .help
  | 'V' :: _ => .error .version
  | _ :: _ => .error .misuse

/-- Takes a long flag; only the path of the settings has a value. -/
def takeLongFlag (arguments : Arguments) (flag : String) : Except ArgumentStop Arguments :=
  match flag with
  | "verbose" => .ok arguments.moreVerbose
  | "help" => .error .help
  | "version" => .error .version
  | _ =>
      if flag.startsWith "config=" then arguments.setConfig (flag.drop 7).toString
      else .error .misuse

def takeActions (arguments : Arguments) : List String → Except ArgumentStop Arguments
  | [] => .ok arguments
  | action :: rest => do takeActions (← arguments.setAction action) rest

/-- Whether an argument is a flag or ends the flags. A single dash is neither. -/
def isFlag (argument : String) : Bool := argument.startsWith "-" && argument != "-"

def take (arguments : Arguments) : List String → Except ArgumentStop Arguments
  | [] => .ok arguments
  | "--" :: rest => takeActions arguments rest
  | ["--config"] => .error .misuse
  | "--config" :: path :: rest => do
      if isFlag path then throw .misuse
      take (← arguments.setConfig path) rest
  | argument :: rest => do
      if argument.startsWith "--" then
        take (← arguments.takeLongFlag (argument.drop 2).toString) rest
      else if isFlag argument then
        take (← arguments.takeFlags (argument.drop 1).toString.toList) rest
      else take (← arguments.setAction argument) rest

/-- Reads the arguments. The environment may name the settings where no argument does. -/
def read (arguments : List String) (environment : Option String) :
    Except ArgumentStop Arguments := do
  let read ← take {} arguments
  match read.config, environment with
  | none, some path => read.setConfig path
  | _, _ => return read

end Arguments

inductive Action where
  | describe
  | get
  | set
  deriving DecidableEq, Repr, Inhabited

namespace Action

def nameIn (argument : String) : String :=
  String.ofList (argument.toList.reverse.takeWhile (· != '=')).reverse

def ofArgument? (argument : String) : Option Action :=
  match nameIn argument with
  | "describe" => some .describe
  | "get" => some .get
  | "set" => some .set
  | _ => none

def title : Action → String
  | describe => "Describe"
  | get => "Get"
  | set => "Set"

end Action

end PackageProvider
