import LeveledLogging.Proofs.Listing
import Mathlib.Data.Finset.Card
import Mathlib.Data.List.Infix
import Mathlib.Data.List.Nodup
/-! How a tree of levels grows. It has one node for every prefix of a name that was set, and one for the
root; whatever is asked of it in between makes none (`sizeCountsPrefixes`). -/
namespace LeveledLogging.Hierarchy

mutual

def nodes : Hierarchy → List (List String)
  | node _ children => [] :: nodesOfAll children

def nodesOfAll : Entries Hierarchy → List (List String)
  | [] => []
  | (segment, child) :: rest => child.nodes.map (segment :: ·) ++ nodesOfAll rest

end

mutual

theorem nodesLength : (tree : Hierarchy) → tree.nodes.length = tree.size
  | node _ children => by
    rw [nodes, size, List.length_cons, nodesOfAllLength children, Nat.add_comm]

theorem nodesOfAllLength : (children : Entries Hierarchy) →
    (nodesOfAll children).length = sizeOfAll children
  | [] => rfl
  | (segment, child) :: rest => by
    rw [nodesOfAll, sizeOfAll, List.length_append, List.length_map, nodesLength child,
      nodesOfAllLength rest]

end

theorem nodesOfAllEach (children : Entries Hierarchy) :
    nodesOfAll children = children.flatMap fun pair => pair.2.nodes.map (pair.1 :: ·) := by
  induction children with
  | nil => rfl
  | cons pair rest ih => rw [nodesOfAll, ih, List.flatMap_cons]

theorem nodesDistinct {tree : Hierarchy} (ordered : tree.Ordered) : tree.nodes.Nodup := by
  induction ordered with
  | @node own children ascending inside ih =>
    rw [nodes, nodesOfAllEach, List.nodup_cons, List.nodup_flatMap]
    refine ⟨?_, ?_, ?_⟩
    · simp
    · intro pair there
      exact List.Nodup.map (fun p q same => (List.cons.inj same).2) (ih pair there)
    · refine List.Pairwise.imp ?_ (List.pairwise_map.mp ascending.nodup)
      intro a b differ p first second
      obtain ⟨q, _, rfl⟩ := List.mem_map.mp first
      obtain ⟨r, _, same⟩ := List.mem_map.mp second
      exact differ (List.cons.inj same).1.symm

def hasNode : List String → Hierarchy → Bool
  | [], _ => true
  | segment :: rest, node _ children =>
    match Entries.find? segment children with
    | some child => hasNode rest child
    | none => false

theorem nodesIff {tree : Hierarchy} (ordered : tree.Ordered) {name : List String} :
    name ∈ tree.nodes ↔ tree.hasNode name = true := by
  induction ordered generalizing name with
  | @node own children ascending inside ih =>
    rw [nodes, nodesOfAllEach, List.mem_cons, List.mem_flatMap]
    cases name with
    | nil => simp [hasNode]
    | cons segment rest =>
      rw [hasNode]
      constructor
      · rintro (root | ⟨⟨key, child⟩, there, below⟩)
        · contradiction
        · obtain ⟨p, listed, same⟩ := List.mem_map.mp below
          cases same
          rw [Entries.findMember ascending.nodup there]
          exact (ih _ there).mp listed
      · intro found
        split at found
        · rename_i child present
          have there := Entries.findSomeMember present
          exact .inr ⟨_, there, List.mem_map.mpr ⟨rest, (ih _ there).mpr found, rfl⟩⟩
        · contradiction

theorem hasNodeEmpty {name : List String} : empty.hasNode name = true ↔ name = [] := by
  cases name <;> simp [hasNode, empty, Entries.find?]

theorem hasNodeSet (tree : Hierarchy) (name : List String) (level : Level) (p : List String) :
    (tree.set name level).hasNode p = true ↔ p <+: name ∨ tree.hasNode p = true := by
  induction name generalizing p tree with
  | nil =>
    cases tree
    cases p <;> simp [set, hasNode]
  | cons segment rest ih =>
    obtain ⟨own, children⟩ := tree
    cases p with
    | nil => simp [hasNode]
    | cons part tail =>
      rw [set, hasNode, hasNode, Entries.findInsert, List.cons_prefix_cons]
      by_cases same : part = segment
      · subst same
        simp only [if_true, true_and, ih]
        -- a child that is not there yet has one node, and that name is above every other
        cases Entries.find? part children with
        | some child => rfl
        | none =>
          have root : tail = [] → tail <+: rest := by
            rintro rfl
            exact List.nil_prefix
          simpa [hasNodeEmpty] using root
      · simp [same]

theorem hasNodeSetAll (tree : Hierarchy) (settings : List (List String × Level)) (p : List String) :
    (tree.setAll settings).hasNode p = true ↔
      (∃ setting ∈ settings, p <+: setting.1) ∨ tree.hasNode p = true := by
  induction settings generalizing tree with
  | nil => simp [setAll]
  | cons setting rest ih =>
    change ((tree.set setting.1 setting.2).setAll rest).hasNode p = true ↔ _
    rw [ih, hasNodeSet, List.exists_mem_cons_iff, or_left_comm, or_assoc]

def prefixes (names : List (List String)) : Finset (List String) :=
  insert [] (names.flatMap List.inits).toFinset

theorem prefixesIff {names : List (List String)} {p : List String} :
    p ∈ prefixes names ↔ p = [] ∨ ∃ name ∈ names, p <+: name := by
  simp [prefixes]

theorem nodesHistory (settings : List (List String × Level)) {p : List String} :
    p ∈ (setAll .empty settings).nodes ↔ p ∈ prefixes (settings.map Prod.fst) := by
  rw [nodesIff (setAllOrdered emptyOrdered settings), hasNodeSetAll, hasNodeEmpty, prefixesIff,
    or_comm]
  simp

theorem sizeHistory (settings : List (List String × Level)) :
    (setAll .empty settings).size = (prefixes (settings.map Prod.fst)).card := by
  have distinct := nodesDistinct (setAllOrdered emptyOrdered settings)
  have same : (setAll .empty settings).nodes.toFinset = prefixes (settings.map Prod.fst) := by
    ext p
    rw [List.mem_toFinset, nodesHistory]
  rw [← nodesLength, ← List.toFinset_card_of_nodup distinct, same]

/-! ## Runs -/

inductive Action where
  | set (name : List String) (level : Level)
  | get (name : List String)
  | allows (name : List String) (level : Level)
  | configured
  deriving DecidableEq, Repr

inductive Answer where
  | done
  | level (level : Level)
  | allowed (allowed : Bool)
  | listed (entries : List (String × Level))
  deriving DecidableEq, Repr

def perform (tree : Hierarchy) : Action → Answer × Hierarchy
  | .set name level => (.done, tree.set name level)
  | .get name => (.level (tree.get name), tree)
  | .allows name level => (.allowed (tree.allows name level), tree)
  | .configured => (.listed tree.configured, tree)

def run (tree : Hierarchy) (actions : List Action) : Hierarchy :=
  actions.foldl (fun tree action => (tree.perform action).2) tree

def Action.setting? : Action → Option (List String × Level)
  | .set name level => some (name, level)
  | _ => none

def namesSet (actions : List Action) : List (List String) :=
  (actions.filterMap Action.setting?).map Prod.fst

theorem runSettings (tree : Hierarchy) (actions : List Action) :
    tree.run actions = tree.setAll (actions.filterMap Action.setting?) := by
  induction actions generalizing tree with
  | nil => rfl
  | cons action rest ih =>
    change (tree.perform action).2.run rest = _
    rw [ih]
    cases action <;> rfl

theorem sizeCountsPrefixes (actions : List Action) :
    (empty.run actions).size = (prefixes (namesSet actions)).card ∧
    (empty.run actions).nodes.Nodup ∧
    (∀ p, p ∈ (empty.run actions).nodes ↔ p = [] ∨ ∃ name ∈ namesSet actions, p <+: name) ∧
    (∀ more, (empty.run actions).nodes ⊆ (empty.run (actions ++ more)).nodes) ∧
    ∀ other, (∀ name, name ∈ namesSet other ↔ name ∈ namesSet actions) →
      (empty.run other).size = (empty.run actions).size := by
  have counted : ∀ actions, (empty.run actions).size = (prefixes (namesSet actions)).card := by
    intro actions
    rw [runSettings, sizeHistory, namesSet]
  have listed : ∀ actions p, p ∈ (empty.run actions).nodes ↔
      p = [] ∨ ∃ name ∈ namesSet actions, p <+: name := by
    intro actions p
    rw [runSettings, nodesHistory, prefixesIff, namesSet]
  refine ⟨counted actions, ?_, listed actions, ?_, ?_⟩
  · rw [runSettings]
    exact nodesDistinct (setAllOrdered emptyOrdered _)
  · intro more p inside
    rw [listed] at inside ⊢
    refine inside.imp_right ?_
    rintro ⟨name, set, isAbove⟩
    refine ⟨name, ?_, isAbove⟩
    rw [namesSet, List.filterMap_append, List.map_append]
    exact List.mem_append_left _ set
  · intro other same
    have places : prefixes (namesSet other) = prefixes (namesSet actions) := by
      ext p
      simp only [prefixesIff, same]
    rw [counted, counted, places]

example : (empty.run [.set ["a", "b"] .info, .get ["x", "y"], .set ["b"] .error,
    .set ["a"] .debug, .configured]).size = 4 := by decide

end LeveledLogging.Hierarchy
