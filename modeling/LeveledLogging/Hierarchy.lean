import LeveledLogging.Entries
import LeveledLogging.Level
import LeveledLogging.Name
/-!
Maximum levels by name, with inheritance. Names are paths in a tree; a node may carry a level of its
own, and a name without one takes the level of its nearest ancestor that has one. Names are raw
segment lists here: any text may be a segment.
-/
namespace LeveledLogging

inductive Hierarchy where
  | node (level : Option Level) (children : List (String × Hierarchy))

namespace Hierarchy

def empty : Hierarchy := node none []

def level? : Hierarchy → Option Level
  | node level _ => level

def children : Hierarchy → Entries Hierarchy
  | node _ children => children

def set : List String → Level → Hierarchy → Hierarchy
  | [], level, node _ children => node (some level) children
  | segment :: rest, level, node own children =>
    node own (Entries.insert segment
      (set rest level ((Entries.find? segment children).getD empty)) children)

/- The level of the last node with one on the walk along a name; `inherited` if there is none. -/
def inherit : List String → Option Level → Hierarchy → Option Level
  | [], inherited, node own _ => own.or inherited
  | segment :: rest, inherited, node own children =>
    match Entries.find? segment children with
    | some child => inherit rest (own.or inherited) child
    | none => own.or inherited

def get (tree : Hierarchy) (name : List String) : Level := (inherit name none tree).getD .off

def allows (tree : Hierarchy) (name : List String) (level : Level) : Bool := level ≤ tree.get name

def configuredAt : List String → Hierarchy → Option Level
  | [], node own _ => own
  | segment :: rest, node _ children =>
    match Entries.find? segment children with
    | some child => configuredAt rest child
    | none => none

mutual

def size : Hierarchy → Nat
  | node _ children => 1 + sizeOfAll children

def sizeOfAll : Entries Hierarchy → Nat
  | [] => 0
  | (_, child) :: rest => size child + sizeOfAll rest

end

mutual

def listFrom (above : List String) : Hierarchy → List (List String × Level)
  | node own children =>
    (own.toList.map fun level => (above, level)) ++ listAllFrom above children

def listAllFrom (above : List String) : Entries Hierarchy → List (List String × Level)
  | [] => []
  | (segment, child) :: rest => listFrom (above ++ [segment]) child ++ listAllFrom above rest

end

def entryLe (a b : String × Level) : Bool := a.1 < b.1 || (a.1 = b.1 && a.2 ≤ b.2)

def configured (tree : Hierarchy) : List (String × Level) :=
  ((tree.listFrom []).map fun (name, level) => (LoggerName.dots name, level)).mergeSort entryLe

def setAll (tree : Hierarchy) (settings : List (List String × Level)) : Hierarchy :=
  settings.foldl (fun t (name, level) => t.set name level) tree

end Hierarchy

end LeveledLogging
