import LeveledLogging.Document.Conversion
import LeveledLogging.Yaml.Grammar
import LeveledLogging.Yaml.Scalar
/-!
Documents from YAML text. Tags other than those of the plain kinds make a scalar a text. Local tags
have no meaning in a document, which must not have one with a name; without a name they count for
nothing. Nesting and the use of aliases are bounded.
-/
namespace LeveledLogging.Yaml

def ofInteger (n : Int) : Option OrderedDocument :=
  if Int64.minValue.toInt ≤ n ∧ n < UInt64.size then some (.integer n) else none

def ofResolved : Scalar → Option OrderedDocument
  | .null => some .null
  | .boolean b => some (.boolean b)
  | .integer n => ofInteger n
  | .float x => some (.ofFloat x)
  | .text s => some (.text s)

def ofUntagged (style : ScalarStyle) (s : String) : Option OrderedDocument :=
  if style = .plain then ofResolved (.resolve s) else some (.text s)

def ofScalar (tag : Option Tag) (style : ScalarStyle) (s : String) : Option OrderedDocument :=
  match tag with
  | none => ofUntagged style s
  | some tag =>
    if tag.name?.isSome then none
    else if tag.isLocal then ofUntagged style s
    else if tag = .standard "bool" then (Scalar.readBoolean s).map .boolean
    else if tag = .standard "int" then (Scalar.readInteger s).bind ofInteger
    else if tag = .standard "float" then (Scalar.readFloat s).map .ofFloat
    else if tag = .standard "null" then (if Scalar.isNull s then some .null else none)
    else some (.text s)

abbrev Following := StateT Nat Option

def aliasesPerEvent : Nat := 100

def deepest : Nat := 128

def Tree.follow (tree : Tree) (node : Node) : Following Node := do
  match node with
  | .reference number =>
    match ← get with
    | 0 => failure
    | left + 1 =>
      set left
      tree.target number
  | node => return node

def Tree.keyText (tree : Tree) (node : Node) : Following String := do
  match ← tree.follow node with
  | .scalar _ _ s => return s
  | _ => failure

def ofNode (tree : Tree) : Nat → Node → Following OrderedDocument
  | 0, node => do
    match ← tree.follow node with
    | .scalar tag style s => ofScalar tag style s
    | _ => failure
  | depth + 1, node => do
    match ← tree.follow node with
    | .scalar tag style s => ofScalar tag style s
    | .sequence tag items =>
      if tag.any fun tag => tag.name?.isSome then failure
      return .list (← items.mapM (ofNode tree depth))
    | .mapping tag pairs =>
      if tag.any fun tag => tag.name?.isSome then failure
      let members ← pairs.mapM fun (key, value) => do
        let key ← tree.keyText key
        return (key, ← ofNode tree depth value)
      return .object (.ofList members)
    | .reference _ => failure

def readDocument (s : String) : Option OrderedDocument := do
  match ← Stream.read s with
  | .empty => return .null
  | .document tree => return (← (ofNode tree deepest tree.root).run (tree.events * aliasesPerEvent)).1

end LeveledLogging.Yaml
