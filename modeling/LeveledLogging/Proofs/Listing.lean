import LeveledLogging.Proofs.Inheritance
import LeveledLogging.Proofs.Names
/-! The list of the levels in a tree. The children of every node stand in order, so that the list holds
each name that has a level of its own, with this level, and nothing else (`listFromIff`). Sorted by
dotted texts it starts with the root, if the root has a level (`rootListedFirst`). -/
namespace LeveledLogging.Hierarchy

inductive Ordered : Hierarchy → Prop where
  | node {own children} (ascending : Entries.Ascending children)
    (inside : ∀ pair ∈ children, Ordered pair.2) : Ordered (node own children)

theorem emptyOrdered : Ordered empty := .node List.Pairwise.nil (by simp)

theorem setOrdered {tree : Hierarchy} (ordered : tree.Ordered) (name : List String) (level : Level) :
    (tree.set name level).Ordered := by
  induction name generalizing tree with
  | nil =>
    cases ordered with
    | node ascending inside => exact .node ascending inside
  | cons segment rest ih =>
    cases ordered with
    | @node own children ascending inside =>
      have below : ((Entries.find? segment children).getD empty).Ordered := by
        cases found : Entries.find? segment children with
        | none => exact emptyOrdered
        | some child => exact inside _ (Entries.findSomeMember found)
      have inserted := Entries.ascendingInsert ascending segment
        (set rest level ((Entries.find? segment children).getD empty))
      refine .node inserted ?_
      intro pair there
      have found := Entries.findMember inserted.nodup there
      rw [Entries.findInsert] at found
      split at found
      · rw [← Option.some.inj found]
        exact ih below
      · exact inside _ (Entries.findSomeMember found)

theorem setAllOrdered {tree : Hierarchy} (ordered : tree.Ordered)
    (settings : List (List String × Level)) : (tree.setAll settings).Ordered := by
  induction settings generalizing tree with
  | nil => exact ordered
  | cons setting rest ih => exact ih (setOrdered ordered setting.1 setting.2)

theorem listAllFromIff {above : List String} {children : Entries Hierarchy}
    {entry : List String × Level} :
    entry ∈ listAllFrom above children ↔
      ∃ pair ∈ children, entry ∈ listFrom (above ++ [pair.1]) pair.2 := by
  induction children with
  | nil => simp [listAllFrom]
  | cons pair rest ih =>
    obtain ⟨segment, child⟩ := pair
    rw [listAllFrom, List.mem_append, ih, List.exists_mem_cons_iff]

theorem listFromIff {tree : Hierarchy} (ordered : tree.Ordered) {above name : List String}
    {level : Level} :
    (name, level) ∈ tree.listFrom above ↔
      ∃ below, name = above ++ below ∧ tree.configuredAt below = some level := by
  induction ordered generalizing above with
  | @node own children ascending inside ih =>
    rw [listFrom, List.mem_append, listAllFromIff]
    constructor
    · rintro (here | ⟨⟨segment, child⟩, there, listed⟩)
      · obtain ⟨_, mine, same⟩ := List.mem_map.mp here
        cases same
        exact ⟨[], (List.append_nil _).symm, Option.mem_toList.mp mine⟩
      · obtain ⟨below, rfl, found⟩ := (ih _ there).mp listed
        refine ⟨segment :: below, List.append_assoc .., ?_⟩
        rw [configuredAt, Entries.findMember ascending.nodup there]
        exact found
    · rintro ⟨below, same, found⟩
      cases below with
      | nil =>
        have mine : own = some level := found
        rw [same, List.append_nil]
        exact .inl (List.mem_map.mpr ⟨level, Option.mem_toList.mpr mine, rfl⟩)
      | cons segment rest =>
        rw [configuredAt] at found
        split at found
        · rename_i child present
          have there := Entries.findSomeMember present
          have longer : name = above ++ [segment] ++ rest := by simpa using same
          exact .inr ⟨_, there, (ih _ there).mpr ⟨rest, longer, found⟩⟩
        · cases found

/-! ## Order -/

theorem entryLeIff {a b : String × Level} :
    entryLe a b = true ↔ a.1 < b.1 ∨ a.1 = b.1 ∧ a.2 ≤ b.2 := by
  simp [entryLe]

theorem entryLeTrans {a b c : String × Level} (first : entryLe a b = true)
    (second : entryLe b c = true) : entryLe a c = true := by
  obtain ⟨k, l⟩ := a
  obtain ⟨k', l'⟩ := b
  obtain ⟨k'', l''⟩ := c
  rw [entryLeIff] at first second ⊢
  dsimp only at first second ⊢
  rcases first with less | ⟨rfl, below⟩
  · rcases second with more | ⟨rfl, _⟩
    · exact .inl (String.lt_trans less more)
    · exact .inl less
  · rcases second with more | ⟨rfl, above⟩
    · exact .inl more
    · exact .inr ⟨rfl, Nat.le_trans below above⟩

theorem entryLeTotal (a b : String × Level) : (entryLe a b || entryLe b a) = true := by
  rw [Bool.or_eq_true, entryLeIff, entryLeIff]
  by_cases less : a.1 < b.1
  · exact .inl (.inl less)
  by_cases more : b.1 < a.1
  · exact .inr (.inl more)
  have same : a.1 = b.1 := String.le_antisymm (String.not_lt.mp more) (String.not_lt.mp less)
  rcases Nat.le_total a.2.rank b.2.rank with below | above
  · exact .inl (.inr ⟨same, below⟩)
  · exact .inr (.inr ⟨same.symm, above⟩)

theorem configuredSorted (tree : Hierarchy) :
    tree.configured.Pairwise fun a b => entryLe a b = true := by
  unfold configured
  refine List.pairwise_mergeSort ?_ entryLeTotal _
  intro a b c first second
  exact entryLeTrans first second

theorem configuredIff {tree : Hierarchy} (ordered : tree.Ordered) {entry : String × Level} :
    entry ∈ tree.configured ↔
      ∃ name, tree.configuredAt name = some entry.2 ∧ LoggerName.dots name = entry.1 := by
  rw [configured, (List.mergeSort_perm _ _).mem_iff, List.mem_map]
  constructor
  · rintro ⟨⟨name, level⟩, listed, rfl⟩
    obtain ⟨below, same, found⟩ := (listFromIff ordered).mp listed
    exact ⟨below, found, congrArg LoggerName.dots same.symm⟩
  · rintro ⟨name, found, same⟩
    exact ⟨(name, entry.2), (listFromIff ordered).mpr ⟨name, rfl, found⟩, Prod.ext same rfl⟩

theorem rootListedFirst {tree : Hierarchy} (ordered : tree.Ordered)
    (valid : ∀ name level, tree.configuredAt name = some level → ∀ s ∈ name, IsSegment s)
    {root : Level} (own : tree.configuredAt [] = some root) :
    ∃ rest, tree.configured = ("", root) :: rest := by
  have inside : ("", root) ∈ tree.configured := (configuredIff ordered).mpr ⟨[], own, rfl⟩
  have sorted := tree.configuredSorted
  cases listed : tree.configured with
  | nil =>
    rw [listed] at inside
    contradiction
  | cons first rest =>
    rw [listed] at inside sorted
    refine ⟨rest, congrArg (· :: rest) ?_⟩
    rcases List.mem_cons.mp inside with same | later
    · exact same.symm
    have least := (List.pairwise_cons.mp sorted).1 _ later
    have member : first ∈ tree.configured := by
      rw [listed]
      exact List.mem_cons_self
    obtain ⟨name, found, same⟩ := (configuredIff ordered).mp member
    rcases entryLeIff.mp least with less | ⟨blank, _⟩
    · exact absurd (String.lt_iff.mp less) (List.not_lt_nil _)
    · have here := (LoggerName.dotsEmpty (valid name _ found)).mp (same.trans blank)
      rw [here, own] at found
      exact Prod.ext blank (Option.some.inj found).symm

end LeveledLogging.Hierarchy
