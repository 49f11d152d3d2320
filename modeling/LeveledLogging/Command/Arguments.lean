import LeveledLogging.Context
/-!
The arguments of the command line. Options may stand before and after the name of the command; where
one is given on both sides, the side of the command counts. Behind two hyphens everything is a word.
-/
namespace LeveledLogging

inductive Command where
  | resolve (names : List String)
  | levels
  | emit (name : String) (level : Level) (text : String) (fields : List String)
      (backend : BackendKind)
  | check
  | version
  deriving DecidableEq, Repr

structure Options where
  verbosity : Nat
  quiet : Bool
  config : Option String
  levels : List String
  deriving DecidableEq, Repr

structure Invocation where
  command : Command
  options : Options
  deriving DecidableEq, Repr

namespace Arguments

inductive Stop where
  | help
  | version
  | fault
  deriving DecidableEq, Repr

inductive Flag where
  | verbose
  | quiet
  | config
  | level
  | field
  | backend
  | help
  | version
  deriving DecidableEq, Repr

namespace Flag

def takesValue : Flag → Bool
  | .config | .level | .field | .backend => true
  | _ => false

def letter : Flag → Char
  | .verbose => 'v'
  | .quiet => 'q'
  | .config => 'c'
  | .level => 'l'
  | .field => 'f'
  | .backend => 'b'
  | .help => 'h'
  | .version => 'V'

def word : Flag → String
  | .verbose => "verbose"
  | .quiet => "quiet"
  | .config => "config"
  | .level => "level"
  | .field => "field"
  | .backend => "backend"
  | .help => "help"
  | .version => "version"

def shared : List Flag := [.verbose, .quiet, .config, .level, .help]

end Flag

structure Given where
  verbosity : Nat
  quiet : Bool
  config : Option String
  levels : List String
  fields : List String
  backend : Option BackendKind
  words : List String

namespace Given

def nothing : Given := ⟨0, false, none, [], [], none, []⟩

def mostVerbose : Nat := 255

def raise (given : Given) : Flag → Except Stop Given
  | .verbose => .ok { given with verbosity := min mostVerbose (given.verbosity + 1) }
  | .quiet => if given.quiet then .error .fault else .ok { given with quiet := true }
  | .help => .error .help
  | .version => .error .version
  | _ => .error .fault

def set (given : Given) (value : String) : Flag → Except Stop Given
  | .config =>
    if value = "" || given.config.isSome then .error .fault
    else .ok { given with config := some value }
  | .level => .ok { given with levels := given.levels ++ [value] }
  | .field => .ok { given with fields := given.fields ++ [value] }
  | .backend =>
    match given.backend, BackendKind.read value with
    | none, .ok kind => .ok { given with backend := some kind }
    | _, _ => .error .fault
  | _ => .error .fault

end Given

inductive Step where
  | word
  | words
  | done (given : Given)
  | doneWithNext (given : Given)

def isValue (arg : String) : Bool := arg = "-" || arg.toList.head? ≠ some '-'

def setNext (given : Given) (flag : Flag) (next : Option String) : Except Stop Step :=
  match next with
  | some value =>
    if isValue value then .doneWithNext <$> given.set value flag else .error .fault
  | none => .error .fault

def readLetters (known : List Flag) (next : Option String) :
    Given → List Char → Except Stop Step
  | given, [] => .ok (.done given)
  | given, c :: rest =>
    match known.find? fun flag => flag.letter = c with
    | none => .error .fault
    | some flag =>
      if !flag.takesValue then do readLetters known next (← given.raise flag) rest
      else match rest with
        | [] => setNext given flag next
        | '=' :: value => .done <$> given.set (String.ofList value) flag
        | value => .done <$> given.set (String.ofList value) flag

def readWord (known : List Flag) (next : Option String) (given : Given) (s : String) :
    Except Stop Step :=
  let (name, value) := match Text.cut '=' s with
    | some (name, value) => (name, some value)
    | none => (s, none)
  match known.find? fun flag => flag.word = name with
  | none => .error .fault
  | some flag =>
    match flag.takesValue, value with
    | true, some value => .done <$> given.set value flag
    | true, none => setNext given flag next
    | false, some _ => .error .fault
    | false, none => .done <$> given.raise flag

def step (known : List Flag) (given : Given) (arg : String) (next : Option String) :
    Except Stop Step :=
  match arg.toList with
  | ['-', '-'] => .ok .words
  | '-' :: '-' :: name => readWord known next given (String.ofList name)
  | '-' :: c :: letters => readLetters known next given (c :: letters)
  | _ => .ok .word

def readCommand (known : List Flag) (accept : Given → String → Except Stop Given) :
    Given → List String → Except Stop Given
  | given, [] => .ok given
  | given, arg :: rest => do
    match ← step known given arg rest.head? with
    | .word => readCommand known accept (← accept given arg) rest
    | .words => rest.foldlM accept given
    | .done given => readCommand known accept given rest
    | .doneWithNext given =>
      match rest with
      | [] => throw .fault
      | _ :: rest => readCommand known accept given rest

def readFront : Given → List String → Except Stop (Given × String × List String)
  | _, [] => .error .fault
  | given, arg :: rest => do
    match ← step (.version :: Flag.shared) given arg rest.head? with
    | .word => return (given, arg, rest)
    | .words => throw .fault
    | .done given => readFront given rest
    | .doneWithNext given =>
      match rest with
      | [] => throw .fault
      | _ :: rest => readFront given rest

def anyWord (given : Given) (s : String) : Except Stop Given :=
  .ok { given with words := given.words ++ [s] }

def noWord (_ : Given) (_ : String) : Except Stop Given := .error .fault

def messageWord (given : Given) (s : String) : Except Stop Given :=
  match given.words with
  | [] => anyWord given s
  | [_] =>
    match Level.read s with
    | .ok _ => anyWord given s
    | .error _ => .error .fault
  | [_, _] => anyWord given s
  | _ => .error .fault

def resolveCommand (given : Given) : Except Stop Command :=
  if given.words = [] then .error .fault else .ok (.resolve given.words)

def emitCommand (given : Given) : Except Stop Command :=
  match given.words with
  | [name, level, text] =>
    match Level.read level with
    | .ok level => .ok (.emit name level text given.fields (given.backend.getD .simple))
    | .error _ => .error .fault
  | _ => .error .fault

def names : List String := ["resolve", "levels", "emit", "check", "version", "help"]

def readNamed (name : String) (rest : List String) : Except Stop (Command × Given) := do
  let simple (command : Command) : Except Stop (Command × Given) := do
    return (command, ← readCommand Flag.shared noWord .nothing rest)
  match name with
  | "resolve" =>
    let given ← readCommand Flag.shared anyWord .nothing rest
    return (← resolveCommand given, given)
  | "emit" =>
    let given ← readCommand (Flag.field :: .backend :: Flag.shared) messageWord .nothing rest
    return (← emitCommand given, given)
  | "levels" => simple .levels
  | "check" => simple .check
  | "version" => simple .version
  | "help" =>
    match rest with
    | [] => throw .help
    | [about] => throw (if names.contains about then .help else .fault)
    | _ => throw .fault
  | _ => throw .fault

def configOf (given : Given) (fallback : Option String) : Except Stop (Option String) :=
  match given.config, fallback with
  | some path, _ => .ok (some path)
  | none, some "" => .error .fault
  | none, fallback => .ok fallback

def read (fallback : Option String) (args : List String) : Except Stop Invocation := do
  let (front, name, rest) ← readFront .nothing args
  let (command, back) ← readNamed name rest
  let backConfig ← configOf back fallback
  let frontConfig ← configOf front fallback
  return {
    command
    options := {
      verbosity := if back.verbosity = 0 then front.verbosity else back.verbosity
      quiet := front.quiet || back.quiet
      config := if back.config.isSome then backConfig else frontConfig
      levels := if back.levels = [] then front.levels else back.levels } }

end Arguments

end LeveledLogging
