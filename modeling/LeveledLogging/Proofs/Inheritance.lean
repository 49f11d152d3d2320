import LeveledLogging.Hierarchy
import LeveledLogging.Entries
import Mathlib.Data.List.Infix
/-! Inheritance of levels along names. `Inherits` is the reference: a table of the levels that names
have of their own, and the longest name above that is in it. The tree keeps less than a history of
settings, but it answers as the history does (`resolvesLongestPrefixSet`). -/
namespace LeveledLogging

/- A table decides by the longest prefix that is in it, a name itself and the root included. -/
inductive Inherits (own : List String → Option Level) (otherwise : Level) (name : List String) :
    Level → Prop where
  | above {p level} (isAbove : p <+: name) (found : own p = some level)
      (longest : ∀ q, q <+: name → p.length < q.length → own q = none) :
      Inherits own otherwise name level
  | nowhere (missing : ∀ q, q <+: name → own q = none) : Inherits own otherwise name otherwise

def nearest (own : List String → Option Level) : List String → Option Level
  | [] => own []
  | segment :: rest => (nearest (fun p => own (segment :: p)) rest).or (own [])

theorem nearestNone {own name} : nearest own name = none ↔ ∀ q, q <+: name → own q = none := by
  induction name generalizing own with
  | nil => simp [nearest]
  | cons segment rest ih =>
    rw [nearest, Option.or_eq_none_iff, ih]
    constructor
    · rintro ⟨below, root⟩ q isAbove
      rcases List.prefix_cons_iff.mp isAbove with rfl | ⟨t, rfl, inside⟩
      · exact root
      · exact below t inside
    · intro missing
      refine ⟨fun q inside => missing _ (List.cons_prefix_cons.mpr ⟨rfl, inside⟩), ?_⟩
      exact missing [] List.nil_prefix

theorem nearestSome {own name level} :
    nearest own name = some level ↔ ∃ p, p <+: name ∧ own p = some level ∧
      ∀ q, q <+: name → p.length < q.length → own q = none := by
  induction name generalizing own with
  | nil =>
    rw [nearest]
    constructor
    · intro found
      exact ⟨[], List.nil_prefix, found, fun q inside longer => by simp_all⟩
    · rintro ⟨p, isAbove, found, _⟩
      rwa [List.prefix_nil.mp isAbove] at found
  | cons segment rest ih =>
    rw [nearest, Option.or_eq_some_iff, ih, nearestNone]
    constructor
    · rintro (⟨p, isAbove, found, longest⟩ | ⟨missing, found⟩)
      · refine ⟨segment :: p, List.cons_prefix_cons.mpr ⟨rfl, isAbove⟩, found, ?_⟩
        intro q isBelow longer
        rcases List.prefix_cons_iff.mp isBelow with rfl | ⟨t, rfl, inside⟩
        · simp at longer
        · exact longest t inside (by simpa using longer)
      · refine ⟨[], List.nil_prefix, found, ?_⟩
        intro q isBelow longer
        rcases List.prefix_cons_iff.mp isBelow with rfl | ⟨t, rfl, inside⟩
        · simp at longer
        · exact missing t inside
    · rintro ⟨p, isAbove, found, longest⟩
      rcases List.prefix_cons_iff.mp isAbove with rfl | ⟨t, rfl, inside⟩
      · refine .inr ⟨?_, found⟩
        intro q inside
        exact longest _ (List.cons_prefix_cons.mpr ⟨rfl, inside⟩) (by simp)
      · refine .inl ⟨t, inside, found, ?_⟩
        intro q isBelow longer
        exact longest _ (List.cons_prefix_cons.mpr ⟨rfl, isBelow⟩) (by simpa using longer)

theorem inheritsNearest {own otherwise name level} :
    Inherits own otherwise name level ↔ (nearest own name).getD otherwise = level := by
  constructor
  · rintro (⟨isAbove, found, longest⟩ | missing)
    · rw [nearestSome.mpr ⟨_, isAbove, found, longest⟩]
      rfl
    · rw [nearestNone.mpr missing]
      rfl
  · intro same
    cases found : nearest own name with
    | none =>
      rw [found] at same
      cases same
      exact .nowhere (nearestNone.mp found)
    | some l =>
      rw [found] at same
      cases same
      obtain ⟨p, isAbove, here, longest⟩ := nearestSome.mp found
      exact .above isAbove here longest

theorem nearestCongr {own other : List String → Option Level} {name : List String}
    (agree : ∀ p, p <+: name → own p = other p) : nearest own name = nearest other name := by
  induction name generalizing own other with
  | nil => exact agree [] List.nil_prefix
  | cons segment rest ih =>
    rw [nearest, nearest, agree [] List.nil_prefix]
    rw [ih fun p inside => agree _ (List.cons_prefix_cons.mpr ⟨rfl, inside⟩)]

theorem nearestRooted (own : List String → Option Level) (root : Level) (name : List String) :
    nearest (fun p => (own p).or (if [] = p then some root else none)) name =
      (nearest own name).or (some root) := by
  cases name with
  | nil => rfl
  | cons segment rest => simp [nearest]

namespace Hierarchy

theorem configuredAtEmpty (name : List String) : empty.configuredAt name = none := by
  cases name <;> rfl

theorem configuredAtSet (tree : Hierarchy) (name p : List String) (level : Level) :
    (tree.set name level).configuredAt p =
      if p = name then some level else tree.configuredAt p := by
  induction name generalizing p tree with
  | nil =>
    cases tree
    cases p <;> simp [set, configuredAt]
  | cons segment rest ih =>
    obtain ⟨own, children⟩ := tree
    cases p with
    | nil => simp [set, configuredAt]
    | cons part tail =>
      simp only [set, configuredAt, Entries.findInsert, List.cons.injEq]
      by_cases same : part = segment
      · subst same
        simp only [if_true, true_and, ih]
        -- a child that is not there yet is the empty tree, which carries no level anywhere
        cases Entries.find? part children with
        | none => simp [configuredAtEmpty]
        | some child => rfl
      · simp [same]

theorem configuredAtSetAll (tree : Hierarchy) (settings : List (List String × Level))
    (p : List String) :
    (tree.setAll settings).configuredAt p = (lastOf settings p).or (tree.configuredAt p) := by
  induction settings generalizing tree with
  | nil => rfl
  | cons setting rest ih =>
    change ((tree.set setting.1 setting.2).setAll rest).configuredAt p = _
    rw [ih, configuredAtSet, lastOf, Option.or_assoc]
    by_cases same : p = setting.1
    · simp [same]
    · simp [same, Ne.symm same]

/- The walk along a name and the search for its nearest prefix see the same levels: where the tree
ends, no longer prefix has one. -/
theorem inheritNearest (tree : Hierarchy) (name : List String) (inherited : Option Level) :
    inherit name inherited tree = (nearest (tree.configuredAt ·) name).or inherited := by
  induction name generalizing tree inherited with
  | nil => cases tree; rfl
  | cons segment rest ih =>
    obtain ⟨own, children⟩ := tree
    rw [inherit, nearest]
    cases found : Entries.find? segment children with
    | none =>
      have missing : nearest (fun p => configuredAt (segment :: p) (node own children)) rest =
          none := nearestNone.mpr fun q _ => by simp [configuredAt, found]
      rw [missing]
      rfl
    | some child =>
      have below : (fun p => configuredAt (segment :: p) (node own children)) =
          (child.configuredAt ·) := by
        funext p
        simp [configuredAt, found]
      simp only [ih, below, Option.or_assoc]
      rfl

theorem getInherits {tree : Hierarchy} {name : List String} {level : Level} :
    tree.get name = level ↔ Inherits (tree.configuredAt ·) .off name level := by
  rw [inheritsNearest, get, inheritNearest, Option.or_none]

theorem getCongr {tree other : Hierarchy} (same : ∀ p, tree.configuredAt p = other.configuredAt p)
    (name : List String) : tree.get name = other.get name := by
  rw [get, get, inheritNearest, inheritNearest, nearestCongr fun p _ => same p]

theorem configuredAtHistory (settings : List (List String × Level)) :
    ((setAll .empty settings).configuredAt ·) = lastOf settings := by
  funext p
  rw [configuredAtSetAll, configuredAtEmpty, Option.or_none]

theorem resolvesLongestPrefixSet (settings : List (List String × Level)) (name : List String) :
    (∀ level, (setAll .empty settings).get name = level ↔
      Inherits (lastOf settings) .off name level) ∧
    ∀ level, (setAll .empty settings).allows name level = true ↔
      ∃ most, Inherits (lastOf settings) .off name most ∧ level ≤ most := by
  have resolved : ∀ level, (setAll .empty settings).get name = level ↔
      Inherits (lastOf settings) .off name level := by
    intro level
    rw [getInherits, configuredAtHistory]
  refine ⟨resolved, ?_⟩
  intro level
  rw [allows, decide_eq_true_iff]
  constructor
  · intro allowed
    exact ⟨_, (resolved _).mp rfl, allowed⟩
  · rintro ⟨most, inherited, allowed⟩
    rwa [(resolved most).mpr inherited]

end Hierarchy

end LeveledLogging
