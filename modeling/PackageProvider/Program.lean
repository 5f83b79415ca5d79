import PackageProvider.Config
import PackageProvider.Provider
import PackageProvider.Text.Terminal

set_option autoImplicit false

/-! The program: from its arguments and its surroundings to what it writes and the code it
exits with. -/

namespace PackageProvider

namespace Program

def name : String := "ralpkg"

def versionLine : String := name ++ " 0.1.0\n"

def usage : String := "usage: " ++ name ++ " ral_action=<action>"

def threshold (verbosity : Nat) : Level :=
  match verbosity with
  | 0 => .warn
  | 1 => .info
  | _ => .debug

structure OptionHelp where
  short : Option String
  long : String
  suffix : String
  description : String

namespace OptionHelp

def descriptionColumn : Nat := 25

def indent : String := "  "

def shortForm (option : OptionHelp) : String :=
  match option.short with
  | some short => Text.bold short ++ ", "
  | none => "    "

def width (option : OptionHelp) : Nat :=
  indent.length + 4 + option.long.length + option.suffix.length

def line (option : OptionHelp) : String :=
  let blanks (count : Nat) := String.ofList (List.replicate count ' ')
  let description := option.description.toList.flatMap fun c =>
    if c = '\n' then '\n' :: List.replicate descriptionColumn ' ' else [c]
  indent ++ option.shortForm ++ Text.bold option.long ++ option.suffix
    ++ blanks (descriptionColumn - option.width) ++ String.ofList description

end OptionHelp

def options (environment : Option String) : List OptionHelp :=
  let named := "Configuration file [env: RALPKG_CONFIG=" ++ environment.getD "" ++ "]"
  [⟨some "-v", "--verbose", "...", "Verbosity level (logs go to stderr)"⟩,
    ⟨none, "--config", " <CONFIG>", named⟩,
    ⟨some "-h", "--help", "", "Print help"⟩,
    ⟨some "-V", "--version", "", "Print version"⟩]

def help (environment : Option String) : String :=
  let lines :=
    ["dnf package resource provider",
      "",
      "Usage: " ++ name ++ " [OPTIONS] [ACTION]",
      "",
      "Arguments:",
      "  [ACTION]  Action to run, as `ral_action=<describe|get|set>`",
      "",
      "Options:"]
      ++ (options environment).map OptionHelp.line
  String.join (lines.map fun line => line ++ "\n")

def plainHelp (environment : Option String) : String :=
  String.ofList (Text.shown (help environment).toList)

end Program

inductive ProgramError where
  | noAction
  | unknownAction (name : String)
  | config (error : ConfigError)
  | provider (error : ProviderError)
  deriving Repr, Inhabited

def ProgramError.message : ProgramError → String
  | noAction => Program.usage
  | unknownAction name => "unsupported action: '" ++ name ++ "'"
  | config error => error.message
  | provider error => error.message

/-- What the program finds around it. -/
structure Surroundings (World : Type) where
  host : Dnf.Host World
  files : Files
  configVariable : Option String
  effectiveUid : Nat
  input : ByteArray
  accepts : Bool := true

structure Ending where
  written : String := ""
  exitCode : Nat := 0
  failure : Option ProgramError := none

namespace Program

variable {World : Type}

/-- Does what the arguments say. Describing needs no settings; whatever else is asked for,
the settings are read before the request is. -/
def run (around : Surroundings World) (arguments : Arguments) : Act World ProgramError String :=
  match arguments.action with
  | none => throw .noAction
  | some argument =>
      match Action.ofArgument? argument with
      | none => throw (.unknownAction (Action.nameIn argument))
      | some .describe =>
          (describe around.accepts).mapFailure fun error => .provider (.write error)
      | some action =>
          match Config.load around.files arguments.config with
          | .error error => throw (.config error)
          | .ok config => do
              Act.note .debug ("Running action " ++ action.title)
              let provider : Provider World Dnf.Handle :=
                { engine := Dnf.engine around.host config.dnf
                  caller := .user around.effectiveUid
                  retry := config.retryPolicy }
              (provider.handle action around.input around.accepts).mapFailure .provider

def stopped (stop : ArgumentStop) (environment : Option String) : Ending :=
  { exitCode := stop.exitCode
    written := match stop with
      | .help => plainHelp environment
      | .version => versionLine
      | .misuse => "" }

def main (around : Surroundings World) (arguments : List String) (world : World) :
    Ending × Journaled World :=
  match Arguments.read arguments around.configVariable with
  | .error stop => (stopped stop around.configVariable, { world })
  | .ok arguments =>
      let (result, state) := (run around arguments).outcome { world }
      match result with
      | .ok written => ({ written }, state)
      | .error failure => ({ exitCode := 1, failure := some failure }, state)

end Program

end PackageProvider
