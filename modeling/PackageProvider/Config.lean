import PackageProvider.Dnf.Engine
import PackageProvider.Exchange
import PackageProvider.Retry
import PackageProvider.Toml.Document

set_option autoImplicit false

/-! The provider's settings: where they are read from, what they may be, and what they are
where nothing is set. -/

namespace PackageProvider

structure RetrySettings where
  maxAttempts : UInt32 := 3
  baseDelaySeconds : UInt64 := 5
  backoffFactor : Float := 2.0
  maxDelaySeconds : UInt64 := 120
  deriving Repr, Inhabited

structure Config where
  logLevel : Option String := none
  dnf : Dnf.Options := {}
  retry : RetrySettings := {}
  deriving Repr, Inhabited

inductive SettingError where
  | emptyBinary
  | noAttempts
  | shrinkingDelay (factor : Float)
  deriving Repr, Inhabited

def SettingError.message : SettingError → String
  | emptyBinary => "dnf.binary cannot be empty"
  | noAttempts => "retry.max_attempts must be at least 1"
  | shrinkingDelay factor =>
      "retry.backoff_factor must be a number >= 1.0, got " ++ Decimal.plainLayout.write factor

inductive ConfigError where
  | unreadable (path : String)
  | malformed (path : String)
  | invalid (path : String) (reason : SettingError)
  deriving Repr, Inhabited

def ConfigError.message : ConfigError → String
  | unreadable path => "Could not read config file: " ++ path
  | malformed path => "Invalid TOML format in " ++ path
  | invalid path _ => "Invalid config file: " ++ path

structure Files where
  has : String → Bool
  read : String → Option ByteArray
  userConfig : Option String

namespace Config

open Json (Shape)

def dnfType : Json.Shape.RecordType := ⟨"DnfConfig", 3⟩

def retryType : Json.Shape.RecordType := ⟨"RetrySettings", 4⟩

def recordType : Json.Shape.RecordType := ⟨"Config", 3⟩

def dnfShape : Shape Dnf.Options := fun value => do
  let binaryField : Json.Shape.Field String := ⟨"binary", Json.Shape.string, some "dnf"⟩
  let argumentsField : Json.Shape.Field (List String) :=
    ⟨"extra_args", Json.Shape.list Json.Shape.string, some []⟩
  let cacheField : Json.Shape.Field Bool := ⟨"cache_only", Json.Shape.bool, some false⟩
  let fields ← Json.Shape.openRecord dnfType
    [binaryField.check, argumentsField.check, cacheField.check] value
  let binary ← fields.get dnfType 0 binaryField
  let extraArguments ← fields.get dnfType 1 argumentsField
  let cacheOnly ← fields.get dnfType 2 cacheField
  fields.requireNoMore dnfType
  return { binary, extraArguments, cacheOnly }

def retryShape : Shape RetrySettings := fun value => do
  let attemptsField : Json.Shape.Field Nat :=
    ⟨"max_attempts", Json.Shape.below UInt32.size "u32", some 3⟩
  let seconds (name : String) (default : Nat) : Json.Shape.Field Nat :=
    ⟨name, Json.Shape.below UInt64.size "u64", some default⟩
  let baseField := seconds "base_delay_secs" 5
  let factorField : Json.Shape.Field Float := ⟨"backoff_factor", Json.Shape.real, some 2.0⟩
  let longestField := seconds "max_delay_secs" 120
  let fields ← Json.Shape.openRecord retryType
    [attemptsField.check, baseField.check, factorField.check, longestField.check] value
  let attempts ← fields.get retryType 0 attemptsField
  let base ← fields.get retryType 1 baseField
  let backoffFactor ← fields.get retryType 2 factorField
  let longest ← fields.get retryType 3 longestField
  fields.requireNoMore retryType
  return {
    maxAttempts := UInt32.ofNat attempts
    baseDelaySeconds := UInt64.ofNat base
    backoffFactor
    maxDelaySeconds := UInt64.ofNat longest }

def shape : Shape Config := fun value => do
  let levelField : Json.Shape.Field (Option String) :=
    ⟨"log_level", Json.Shape.optional Json.Shape.string, some none⟩
  let dnfField : Json.Shape.Field Dnf.Options := ⟨"dnf", dnfShape, some {}⟩
  let retryField : Json.Shape.Field RetrySettings := ⟨"retry", retryShape, some {}⟩
  let fields ← Json.Shape.openRecord recordType
    [levelField.check, dnfField.check, retryField.check] value
  let logLevel ← fields.get recordType 0 levelField
  let dnf ← fields.get recordType 1 dnfField
  let retry ← fields.get recordType 2 retryField
  fields.requireNoMore recordType
  return { logLevel, dnf, retry }

def groups : List (String × Json.Shape.RecordType) := [("dnf", dnfType), ("retry", retryType)]

/-- The entries that count. In TOML an array may stand for a record and have items to spare,
which nobody looks at. -/
def withoutSurplus (entries : Toml.Entries) : Toml.Entries :=
  entries.map fun (key, item) =>
    match item, groups.find? fun group => group.1 == key with
    | .list items, some (_, type) => (key, .list (items.take type.size))
    | _, _ => (key, item)

def ofToml? (text : String) : Option Config := do
  let entries ← Toml.parse text
  let value ← (Toml.Item.table .header (withoutSurplus entries)).toValue?
  (shape value).toOption

/-- What settings must be: a program to run, at least one attempt, and delays that do not
shrink. The first rule that is broken counts. -/
def check (config : Config) : Except SettingError Unit :=
  let factor := config.retry.backoffFactor
  if Text.allBlank config.dnf.binary.toList then .error .emptyBinary
  else if config.retry.maxAttempts = 0 then .error .noAttempts
  else if !factor.isFinite || factor < 1.0 then .error (.shrinkingDelay factor)
  else .ok ()

def retryPolicy (config : Config) : RetryPolicy :=
  { maxAttempts := config.retry.maxAttempts
    baseDelay := .ofSeconds config.retry.baseDelaySeconds
    growth := config.retry.backoffFactor
    maxDelay := .ofSeconds config.retry.maxDelaySeconds }

def systemPath : String := "/etc/ralpkg/config.toml"

/-- The file that is read when none is named: the machine's if it is there, otherwise the
user's if it is. -/
def defaultPath? (files : Files) : Option String :=
  (systemPath :: files.userConfig.toList).find? files.has

def loadFrom (files : Files) (path : String) : Except ConfigError Config :=
  match (files.read path).bind String.fromUTF8? with
  | none => .error (.unreadable path)
  | some text =>
      match ofToml? text with
      | none => .error (.malformed path)
      | some config =>
          match config.check with
          | .ok () => .ok config
          | .error reason => .error (.invalid path reason)

def load (files : Files) (path? : Option String) : Except ConfigError Config :=
  match path?.orElse fun _ => defaultPath? files with
  | some path => loadFrom files path
  | none => .ok {}

end Config

end PackageProvider
