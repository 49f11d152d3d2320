/-!
The tokens of a YAML text and the nodes of its document. Indentation appears as tokens that open and
close block collections. Escapes in a tag spell octets that need not make up a text, so a tag is a list
of octets; the first zero among those that are written ends it. An alias stands in the tree as a
number, under which `Tree.anchored` has the node it means.
-/
namespace LeveledLogging.Yaml

structure Tag where
  octets : List UInt8
  deriving DecidableEq, Repr

namespace Tag

def octetsOf (s : List Char) : List UInt8 := s.flatMap String.utf8EncodeChar

def ofOctets (octets : List UInt8) : Tag := ⟨octets.takeWhile (· ≠ 0)⟩

def ofText (s : String) : Tag := ofOctets (octetsOf s.toList)

def append (a b : Tag) : Tag := ⟨a.octets ++ b.octets⟩

def standard (kind : String) : Tag := ofText ("tag:yaml.org,2002:" ++ kind)

def mark : UInt8 := 0x21

def bare : Tag := ⟨[mark]⟩

def isLocal (tag : Tag) : Bool := tag.octets.head? = some mark

/- The name in a local tag: the text behind the mark, or the mark if it is bare. Octets that are no
text name nothing. -/
def name? (tag : Tag) : Option String :=
  match tag.octets with
  | [] => none
  | x :: rest =>
    if x = mark then String.fromUTF8? (if rest = [] then [mark] else rest).toByteArray else none

end Tag

inductive ScalarStyle where
  | plain
  | singleQuoted
  | doubleQuoted
  | literal
  | folded
  deriving DecidableEq, Repr

inductive Token where
  | version (major minor : Nat)
  | tagDirective (handle : String) (start : Tag)
  | documentStart
  | documentEnd
  | blockSequenceStart
  | blockMappingStart
  | blockEnd
  | flowSequenceStart
  | flowSequenceEnd
  | flowMappingStart
  | flowMappingEnd
  | blockEntry
  | flowEntry
  | key
  | value
  | reference (name : String)
  | anchor (name : String)
  -- A tag; without a handle the suffix is the whole tag.
  | tag (handle : String) (suffix : Tag)
  | scalar (style : ScalarStyle) (text : String)
  deriving DecidableEq, Repr

inductive Node where
  | scalar (tag : Option Tag) (style : ScalarStyle) (text : String)
  | sequence (tag : Option Tag) (items : List Node)
  | mapping (tag : Option Tag) (pairs : List (Node × Node))
  | reference (number : Nat)

namespace Node

instance : Inhabited Node := ⟨reference 0⟩

def absent : Node := scalar none .plain ""

end Node

structure Tree where
  root : Node
  anchored : List (Nat × Node)
  events : Nat

def Tree.target (tree : Tree) (number : Nat) : Option Node := tree.anchored.lookup number

inductive Stream where
  | empty
  | document (tree : Tree)

end LeveledLogging.Yaml
