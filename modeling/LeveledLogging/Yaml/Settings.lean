import LeveledLogging.Settings
import LeveledLogging.Yaml.Document
/-!
Settings straight from YAML text. Every member has a kind that it must be written in, and none may
occur twice; members that are not known count for nothing, whatever they hold.
-/
namespace LeveledLogging.Yaml

private def isAbsent : Node → Bool
  | .scalar _ .plain "" => true
  | _ => false

private def plainText (kind : String) : Node → Option String
  | .scalar _ .plain s => some s
  | .scalar (some tag) .literal s => if tag = .standard kind then some s else none
  | _ => none

private def readInt32 (tree : Tree) (node : Node) : Following Int32 := do
  let n ← Scalar.readInteger (← plainText "int" (← tree.follow node))
  if Int32.minValue.toInt ≤ n ∧ n ≤ Int32.maxValue.toInt then return Int32.ofInt n else failure

private def readBool (tree : Tree) (node : Node) : Following Bool := do
  Scalar.readBoolean (← plainText "bool" (← tree.follow node))

private def readPath (tree : Tree) (node : Node) : Following (Option String) := do
  match ← tree.follow node with
  | .scalar none .plain s => return if s = "" || Scalar.isNull s then none else some s
  | .scalar (some tag) .plain s =>
    if tag ≠ .standard "null" then return some s
    else if Scalar.isNull s then return none
    else failure
  | .scalar _ _ s => return some s
  | _ => failure

private def readWord (tree : Tree) (node : Node) : Following String := do
  match ← tree.follow node with
  | .scalar tag style s =>
    match tag.bind Tag.name? with
    | none => return s
    | some name => if style = .plain && (s = "" || Scalar.isNull s) then return name else failure
  | _ => failure

private def readLevel (tree : Tree) (node : Node) : Following Level := do
  Level.ofWord? (← readWord tree node)

private def readFormat (tree : Tree) (node : Node) : Following LineFormat := do
  let word ← readWord tree node
  LineFormat.all.find? fun format => format.word = word

private def readLevels (tree : Tree) (node : Node) : Following LevelTable := do
  let node ← tree.follow node
  if isAbsent node then return .empty
  match node with
  | .mapping _ pairs =>
    return Table.ofList (← pairs.mapM fun (key, value) => do
      let key ← tree.keyText key
      return (key, ← readLevel tree value))
  | _ => failure

private def setMember (tree : Tree) (settings : Settings) (key : String) (node : Node) :
    Following Settings := do
  match key with
  | "verbosity" => return { settings with verbosity := ← readInt32 tree node }
  | "path" => return { settings with path := ← readPath tree node }
  | "trace" => return { settings with trace := ← readBool tree node }
  | "format" => return { settings with format := ← readFormat tree node }
  | "levels" => return { settings with table := ← readLevels tree node }
  | _ => return settings

private def isRepeated (seen : List String) (key : String) : Bool :=
  Settings.places.contains key && seen.contains key

private def setMembers (tree : Tree) (settings : Settings) (seen : List String) :
    List (Node × Node) → Following Settings
  | [] => return settings
  | (key, value) :: rest => do
    let key ← tree.keyText key
    if isRepeated seen key then failure
    setMembers tree (← setMember tree settings key value) (key :: seen) rest

private def ofTree (tree : Tree) : Following Settings := do
  match ← tree.follow tree.root with
  | .mapping _ pairs => setMembers tree .standard [] pairs
  | node => if isAbsent node then return .standard else failure

def readSettings (s : String) : Option Settings := do
  match ← Stream.read s with
  | .empty => return .standard
  | .document tree => return (← (ofTree tree).run (tree.events * aliasesPerEvent)).1

end LeveledLogging.Yaml
