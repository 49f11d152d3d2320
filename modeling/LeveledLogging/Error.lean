import LeveledLogging.Text.Integer
/-!
Why an operation fails. Each constructor is a cause with the data it needs; the wording of all of
them stands in the functions named `message`. Causes are grouped by the part that reports them, and
`LogError` names the group in front of the message.
-/
namespace LeveledLogging

inductive Invalid where
  | emptySegment
  | dottedSegment (segment : String)
  | level (text : String)
  | ordinal (n : Nat)
  | backend (text : String)
  | described (text : String)
  deriving DecidableEq, Repr

def Invalid.message : Invalid → String
  | .emptySegment => "Invalid logger name: segments must not be empty"
  | .dottedSegment s => "Invalid logger name segment '" ++ s ++ "': must not contain '.'"
  | .level s => "Invalid log level: " ++ s
  | .ordinal n => "Unsupported level ordinal: " ++ Text.integer n
  | .backend s => "Unknown backend: " ++ s
  | .described s => s

inductive IoFault where
  | notFound
  | fileExists
  | notDirectory
  | isDirectory
  | nameTooLong
  | nulInName
  | notUtf8
  | described (text : String)
  deriving DecidableEq, Repr

def IoFault.message : IoFault → String
  | .notFound => "No such file or directory (os error 2)"
  | .fileExists => "File exists (os error 17)"
  | .notDirectory => "Not a directory (os error 20)"
  | .isDirectory => "Is a directory (os error 21)"
  | .nameTooLong => "File name too long (os error 36)"
  | .nulInName => "file name contained an unexpected NUL byte"
  | .notUtf8 => "stream did not contain valid UTF-8"
  | .described s => s

inductive DecodeFault where
  -- A value of another kind; `found` names the kind and shows the value.
  | wrongKind (found expected : String)
  | outOfRange (found expected : String)
  | unknownWord (word : String) (known : List String)
  | tooMany (length : Nat)
  | refused (reason : String)
  deriving DecidableEq, Repr

def choice (words : List String) : String :=
  match words.map fun w => "`" ++ w ++ "`" with
  | [] => "there are no variants"
  | [a] => a
  | [a, b] => a ++ " or " ++ b
  | ws => "one of " ++ String.intercalate ", " ws

def DecodeFault.message : DecodeFault → String
  | .wrongKind found expected => "invalid type: " ++ found ++ ", expected " ++ expected
  | .outOfRange found expected => "invalid value: " ++ found ++ ", expected " ++ expected
  | .unknownWord word known => "unknown variant `" ++ word ++ "`, expected " ++ choice known
  | .tooMany n => "invalid length " ++ Text.integer n ++ ", expected fewer elements in array"
  | .refused reason => reason

inductive LoadFault where
  | io (fault : IoFault)
  | malformed
  deriving DecidableEq, Repr

def LoadFault.message : LoadFault → String
  | .io fault => "IO error: " ++ fault.message
  | .malformed => "YAML parsing error: malformed document"

inductive ConfigFault where
  | directive (text : String) (cause : Invalid)
  | key (path : String)
  | notInteger (name value : String)
  | notBoolean (name value : String)
  | missingFile (path : String)
  | unreadable (path : String) (cause : LoadFault)
  | unwritable (path : String) (cause : IoFault)
  | noFile
  | badSection (cause : DecodeFault)
  | noFileName (path : String)
  | logFile (path : String) (cause : IoFault)
  | subscriberInstalled
  | described (text : String)
  deriving DecidableEq, Repr

def ConfigFault.message : ConfigFault → String
  | .directive text cause =>
    "Invalid level directive '" ++ text ++ "': Validation error: " ++ cause.message
  | .key path => "Invalid key: '" ++ path ++ "'"
  | .notInteger name value => name ++ " must be an integer, got '" ++ value ++ "'"
  | .notBoolean name value => name ++ " must be a boolean, got '" ++ value ++ "'"
  | .missingFile path => "Config file not found: " ++ path
  | .unreadable path cause => "Failed to load config file " ++ path ++ ": " ++ cause.message
  | .unwritable path cause => "Failed to write config file " ++ path ++ ": " ++ cause.message
  | .noFile => "Cannot save: no file path set"
  | .badSection cause => "Invalid log configuration: " ++ cause.message
  | .noFileName path => "Log path has no file name: " ++ path
  | .logFile path cause =>
    "Failed to open log file " ++ path ++ ": failed to create log file: " ++ cause.message
  | .subscriberInstalled =>
    "Failed to initialize logging: a global default trace dispatcher has already been set"
  | .described s => s

inductive LogError where
  | config (fault : ConfigFault)
  | validation (fault : Invalid)
  | io (fault : IoFault)
  | yaml
  | json (fault : DecodeFault)
  | bug (text : String)
  | other (text : String)
  deriving DecidableEq, Repr

namespace LogError

def message : LogError → String
  | .config fault => "Configuration error: " ++ fault.message
  | .validation fault => "Validation error: " ++ fault.message
  | .io fault => (LoadFault.io fault).message
  | .yaml => LoadFault.malformed.message
  | .json fault => "JSON parsing error: " ++ fault.message
  | .bug text =>
    "Bug detected: " ++ text ++ "\n\nThis is an internal error. Please report this issue at:\n" ++
      "https://github.com/tliron/commonlog-rs/issues"
  | .other text => text

def chain : LogError → List String
  | .io fault => [(LogError.io fault).message, fault.message]
  | .json fault => [(LogError.json fault).message, fault.message]
  | e => [e.message]

def ofLoadFault : LoadFault → LogError
  | .io fault => .io fault
  | .malformed => .yaml

end LogError

end LeveledLogging
