import LeveledLogging.Proofs.Growth
import LeveledLogging.Proofs.Octets
import Mathlib.Data.Set.List
/-! The list of the levels in a tree as a record of them. In whatever order the children of a node are
met, it comes out the same; it holds each name with the level that it was given last; and from its
entries, read in any order, a tree can be made that is no different from the first
(`configuredReplays`). -/
namespace LeveledLogging.Hierarchy

/-! ## What is met -/

mutual

/- What a walk through a tree meets that takes the children of every node in some order. -/
inductive Meets : List String → Hierarchy → List (List String × Level) → Prop where
  | node {above own children order met} (reordered : order.Perm children)
      (below : MeetsAll above order met) :
      Meets above (node own children) ((own.toList.map fun level => (above, level)) ++ met)

inductive MeetsAll : List String → Entries Hierarchy → List (List String × Level) → Prop where
  | nil {above} : MeetsAll above [] []
  | cons {above segment child rest met more} (first : Meets (above ++ [segment]) child met)
      (later : MeetsAll above rest more) : MeetsAll above ((segment, child) :: rest) (met ++ more)

end

mutual

theorem listFromMeets (above : List String) : (tree : Hierarchy) →
    Meets above tree (tree.listFrom above)
  | node own children => by
    rw [listFrom]
    exact .node (List.Perm.refl _) (listAllFromMeets above children)

theorem listAllFromMeets (above : List String) : (children : Entries Hierarchy) →
    MeetsAll above children (listAllFrom above children)
  | [] => by
    rw [listAllFrom]
    exact .nil
  | (segment, child) :: rest => by
    rw [listAllFrom]
    exact .cons (listFromMeets _ child) (listAllFromMeets above rest)

end

theorem listAllFromEach (above : List String) (children : Entries Hierarchy) :
    listAllFrom above children =
      children.flatMap fun pair => pair.2.listFrom (above ++ [pair.1]) := by
  induction children with
  | nil => rfl
  | cons pair rest ih => rw [listAllFrom, ih, List.flatMap_cons]

mutual

theorem meetsListed {above : List String} {tree : Hierarchy} {met : List (List String × Level)} :
    Meets above tree met → met.Perm (tree.listFrom above)
  | .node reordered below => by
    rw [listFrom, listAllFromEach]
    refine List.Perm.append_left _ ((meetsAllListed below).trans ?_)
    rw [listAllFromEach]
    exact reordered.flatMap_right _

theorem meetsAllListed {above : List String} {children : Entries Hierarchy}
    {met : List (List String × Level)} :
    MeetsAll above children met → met.Perm (listAllFrom above children)
  | .nil => by rw [listAllFrom]
  | .cons first later => by
    rw [listAllFrom]
    exact (meetsListed first).append (meetsAllListed later)

end

theorem entryLeAntisymm {a b : String × Level} (below : entryLe a b = true)
    (above : entryLe b a = true) : a = b := by
  obtain ⟨k, l⟩ := a
  obtain ⟨k', l'⟩ := b
  rw [entryLeIff] at below above
  dsimp only at below above
  rcases below with less | ⟨rfl, least⟩
  · rcases above with more | ⟨rfl, _⟩
    · exact absurd more (String.lt_asymm less)
    · exact absurd less (String.lt_irrefl _)
  · rcases above with more | ⟨_, most⟩
    · exact absurd more (String.lt_irrefl _)
    · exact congrArg (k, ·) (Level.rankInjective (Nat.le_antisymm least most))

theorem sortedAlike {entries other : List (String × Level)} (same : entries.Perm other) :
    entries.mergeSort entryLe = other.mergeSort entryLe := by
  have sorted : ∀ list : List (String × Level),
      (list.mergeSort entryLe).Pairwise fun a b => entryLe a b = true :=
    List.pairwise_mergeSort (fun _ _ _ => entryLeTrans) entryLeTotal
  have shuffled : (entries.mergeSort entryLe).Perm (other.mergeSort entryLe) :=
    (List.mergeSort_perm entries _).trans (same.trans (List.mergeSort_perm other _).symm)
  exact shuffled.eq_of_pairwise (fun _ _ _ _ => entryLeAntisymm) (sorted entries) (sorted other)

/-! ## Names listed -/

mutual

theorem listFromNodes (above : List String) : (tree : Hierarchy) →
    ((tree.listFrom above).map Prod.fst).Sublist (tree.nodes.map (above ++ ·))
  | node own children => by
    rw [listFrom, nodes, List.map_append, List.map_cons, List.append_nil]
    have root : ((own.toList.map fun level => (above, level)).map Prod.fst).Sublist [above] := by
      cases own <;> simp
    exact root.append (listAllFromNodes above children)

theorem listAllFromNodes (above : List String) : (children : Entries Hierarchy) →
    ((listAllFrom above children).map Prod.fst).Sublist ((nodesOfAll children).map (above ++ ·))
  | [] => by simp [listAllFrom]
  | (segment, child) :: rest => by
    have first := listFromNodes (above ++ [segment]) child
    have shifted : child.nodes.map (above ++ [segment] ++ ·) =
        (child.nodes.map (segment :: ·)).map (above ++ ·) := by simp
    rw [listAllFrom, nodesOfAll, List.map_append, List.map_append, ← shifted]
    exact first.append (listAllFromNodes above rest)

end

theorem namesDistinct {tree : Hierarchy} (ordered : tree.Ordered) :
    ((tree.listFrom []).map Prod.fst).Nodup := by
  have below := listFromNodes [] tree
  simp only [List.nil_append, List.map_id'] at below
  exact below.nodup (nodesDistinct ordered)

theorem configuredCongr {tree other : Hierarchy} (ordered : tree.Ordered)
    (orderedToo : other.Ordered) (same : ∀ p, tree.configuredAt p = other.configuredAt p) :
    tree.configured = other.configured := by
  have members : ∀ entry, entry ∈ tree.listFrom [] ↔ entry ∈ other.listFrom [] := by
    rintro ⟨name, level⟩
    simp only [listFromIff ordered, listFromIff orderedToo, same]
  have shuffled := (List.perm_ext_iff_of_nodup (List.Nodup.of_map _ (namesDistinct ordered))
    (List.Nodup.of_map _ (namesDistinct orderedToo))).mpr members
  exact sortedAlike (shuffled.map _)

theorem historyDecides {settings other : List (List String × Level)}
    (same : ∀ p, lastOf settings p = lastOf other p) :
    (∀ name, (setAll .empty settings).get name = (setAll .empty other).get name) ∧
      (setAll .empty settings).configured = (setAll .empty other).configured ∧
      (setAll .empty settings).size = (setAll .empty other).size := by
  have levels : ∀ p, (setAll .empty settings).configuredAt p =
      (setAll .empty other).configuredAt p := by
    intro p
    rw [configuredAtSetAll, configuredAtSetAll, same]
  have keys : ∀ p, p ∈ settings.map Prod.fst ↔ p ∈ other.map Prod.fst := by
    intro p
    rw [← not_iff_not, ← lastOfNone, ← lastOfNone, same]
  have places : prefixes (settings.map Prod.fst) = prefixes (other.map Prod.fst) := by
    ext p
    simp only [prefixesIff, keys]
  refine ⟨getCongr levels, ?_, ?_⟩
  · exact configuredCongr (setAllOrdered emptyOrdered _) (setAllOrdered emptyOrdered _) levels
  · rw [sizeHistory, sizeHistory, places]

/-! ## Calls under valid names -/

def raw (calls : List (LoggerName × Level)) : List (List String × Level) :=
  calls.map fun call => (call.1.segments, call.2)

def written (calls : List (LoggerName × Level)) : List (String × Level) :=
  calls.map fun call => (call.1.dotted, call.2)

theorem lastOfRaw {calls : List (LoggerName × Level)} {p : List String} {level : Level} :
    lastOf (raw calls) p = some level ↔
      ∃ name : LoggerName, name.segments = p ∧ lastOf calls name = some level := by
  have renamed : ∀ name : LoggerName, lastOf (raw calls) name.segments = lastOf calls name :=
    lastOfRenamed LoggerName.segmentsInjective calls
  constructor
  · intro found
    obtain ⟨call, _, same⟩ := List.mem_map.mp (lastOfMember found)
    cases same
    exact ⟨call.1, rfl, (renamed call.1).symm.trans found⟩
  · rintro ⟨name, rfl, found⟩
    exact (renamed name).trans found

theorem rawCongr {calls other : List (LoggerName × Level)}
    (same : ∀ name, lastOf calls name = lastOf other name) (p : List String) :
    lastOf (raw calls) p = lastOf (raw other) p := by
  refine Option.ext fun level => ?_
  simp only [lastOfRaw, same]

theorem configuredRaw {calls : List (LoggerName × Level)} {p : List String} {level : Level} :
    (setAll .empty (raw calls)).configuredAt p = some level ↔
      ∃ name : LoggerName, name.segments = p ∧ lastOf calls name = some level := by
  rw [← lastOfRaw, ← configuredAtHistory]

theorem configuredEntry {calls : List (LoggerName × Level)} {entry : String × Level} :
    entry ∈ (setAll .empty (raw calls)).configured ↔
      ∃ name : LoggerName, name.dotted = entry.1 ∧ lastOf calls name = some entry.2 := by
  rw [configuredIff (setAllOrdered emptyOrdered _)]
  constructor
  · rintro ⟨_, found, same⟩
    obtain ⟨name, rfl, last⟩ := configuredRaw.mp found
    exact ⟨name, same, last⟩
  · rintro ⟨name, same, last⟩
    exact ⟨name.segments, configuredRaw.mpr ⟨name, rfl, last⟩, same⟩

theorem configuredNamed (calls : List (LoggerName × Level)) (name : LoggerName) (level : Level) :
    (name.dotted, level) ∈ (setAll .empty (raw calls)).configured ↔
      lastOf calls name = some level := by
  rw [configuredEntry]
  constructor
  · rintro ⟨other, same, last⟩
    rwa [← LoggerName.dottedInjective same]
  · intro last
    exact ⟨name, rfl, last⟩

theorem keysDistinct (calls : List (LoggerName × Level)) :
    ((setAll .empty (raw calls)).configured.map Prod.fst).Nodup := by
  have ordered := setAllOrdered emptyOrdered (raw calls)
  have valid : ∀ p ∈ ((setAll .empty (raw calls)).listFrom []).map Prod.fst,
      ∀ segment ∈ p, IsSegment segment := by
    intro p inside
    obtain ⟨entry, listed, rfl⟩ := List.mem_map.mp inside
    obtain ⟨below, same, found⟩ := (listFromIff ordered).mp listed
    obtain ⟨name, rfl, _⟩ := configuredRaw.mp found
    rw [same]
    exact name.valid
  have dotted := List.Nodup.map_on
    (fun p there q thereToo => (LoggerName.dotsInjective (valid p there) (valid q thereToo)).mp)
    (namesDistinct ordered)
  rw [configured, ((List.mergeSort_perm _ _).map Prod.fst).nodup_iff, List.map_map]
  rwa [List.map_map] at dotted

theorem configuredAscending (calls : List (LoggerName × Level)) :
    (setAll .empty (raw calls)).configured.Pairwise
      fun a b => Text.octets a.1 < Text.octets b.1 := by
  have sorted := configuredSorted (setAll .empty (raw calls))
  have distinct := List.pairwise_map.mp (keysDistinct calls)
  refine (sorted.and distinct).imp ?_
  rintro a b ⟨below, differ⟩
  rw [Text.octetsLess]
  exact (entryLeIff.mp below).resolve_right fun same => differ same.1

/-! ## Reading the list again -/

def restore (tree : Hierarchy) (entry : String × Level) : Except LogError Hierarchy :=
  return tree.set (← LoggerName.read entry.1).segments entry.2

def replay (entries : List (String × Level)) : Except LogError Hierarchy :=
  entries.foldlM restore empty

theorem restoreNamed (tree : Hierarchy) (name : LoggerName) (level : Level) :
    tree.restore (name.dotted, level) = .ok (tree.set name.segments level) := by
  rw [restore, LoggerName.readDotted]
  rfl

theorem replayWritten (calls : List (LoggerName × Level)) :
    replay (written calls) = .ok (setAll .empty (raw calls)) := by
  have each : ∀ tree : Hierarchy,
      (written calls).foldlM restore tree = .ok (tree.setAll (raw calls)) := by
    induction calls with
    | nil => exact fun _ => rfl
    | cons call rest ih =>
      intro tree
      rw [written, List.map_cons, List.foldlM_cons, restoreNamed]
      exact ih (tree.set call.1.segments call.2)
  exact each empty

theorem writtenIff {calls : List (LoggerName × Level)} {name : LoggerName} {level : Level} :
    (name.dotted, level) ∈ written calls ↔ (name, level) ∈ calls := by
  constructor
  · intro inside
    obtain ⟨call, there, same⟩ := List.mem_map.mp inside
    obtain ⟨sameText, rfl⟩ := Prod.mk.inj same
    rwa [← LoggerName.dottedInjective sameText]
  · intro inside
    exact List.mem_map.mpr ⟨_, inside, rfl⟩

theorem lastOfListed {calls listed : List (LoggerName × Level)}
    (shuffled : (written listed).Perm (setAll .empty (raw calls)).configured) (name : LoggerName) :
    lastOf listed name = lastOf calls name := by
  have dotted := ((shuffled.map Prod.fst).nodup_iff).mpr (keysDistinct calls)
  rw [written, List.map_map] at dotted
  have distinct : (listed.map Prod.fst).Nodup := by
    refine List.Nodup.of_map LoggerName.dotted ?_
    rwa [List.map_map]
  refine Option.ext fun level => ?_
  rw [lastOfUnique distinct, ← writtenIff, shuffled.mem_iff, configuredNamed]

theorem configuredReplays (calls : List (LoggerName × Level)) :
    let tree := setAll .empty (raw calls)
    (tree.configured.Pairwise fun a b => Text.octets a.1 < Text.octets b.1) ∧
    (Meets [] tree (tree.listFrom []) ∧ ∀ met, Meets [] tree met →
      (met.map fun (name, level) => (LoggerName.dots name, level)).mergeSort entryLe =
        tree.configured) ∧
    (∀ name level, (name.dotted, level) ∈ tree.configured ↔ lastOf calls name = some level) ∧
    ∀ entries, entries.Perm tree.configured → ∃ again, replay entries = .ok again ∧
      (∀ name, again.get name = tree.get name) ∧ again.configured = tree.configured ∧
      again.size = tree.size := by
  intro tree
  refine ⟨configuredAscending calls, ⟨listFromMeets [] tree, ?_⟩, configuredNamed calls, ?_⟩
  · intro met walked
    exact sortedAlike ((meetsListed walked).map _)
  · intro entries shuffled
    have each : ∀ entry ∈ entries, entry ∈ Set.range
        fun call : LoggerName × Level => (call.1.dotted, call.2) := by
      intro entry inside
      obtain ⟨name, same, _⟩ := configuredEntry.mp (shuffled.mem_iff.mp inside)
      exact ⟨(name, entry.2), Prod.ext same rfl⟩
    obtain ⟨listed, rfl⟩ := (Set.range_list_map _).symm.subset each
    exact ⟨_, replayWritten listed, historyDecides (rawCongr (lastOfListed shuffled))⟩

end LeveledLogging.Hierarchy
