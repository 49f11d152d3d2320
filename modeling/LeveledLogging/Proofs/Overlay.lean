import LeveledLogging.Proofs.Places
/-! Two documents laid over each other, seen from the places that are reached through objects alone.
What the upper document has at a place lies over what the lower one has there. Where the upper one
ends on the way, the lower one shows through an object, and nothing else lets it through
(`mergedAtPlaces`). -/
namespace LeveledLogging.Document

def reach : List String → Document → Option Document
  | [], document => some document
  | key :: rest, document => (document.member? key).bind (reach rest)

/- The longest part of a way that can be gone in a document, and where it leads. -/
structure Farthest (way keys : List String) (document found : Document) : Prop where
  onWay : way <+: keys
  reached : reach way document = some found
  longest : ∀ other there, other <+: keys → reach other document = some there → other <+: way

theorem reachAppend (way rest : List String) (document : Document) :
    reach (way ++ rest) document = (reach way document).bind (reach rest) := by
  induction way generalizing document with
  | nil => rfl
  | cons key way ih =>
    simp only [List.cons_append, reach]
    cases document.member? key with
    | none => rfl
    | some child => exact ih child

theorem reachStops {keys : List String} {document : Document} (missing : reach keys document = none) :
    ∃ way key rest found, keys = way ++ key :: rest ∧ reach way document = some found ∧
      found.member? key = none := by
  induction keys generalizing document with
  | nil => contradiction
  | cons key rest ih =>
    cases stepped : document.member? key with
    | none => exact ⟨[], key, rest, document, rfl, rfl, stepped⟩
    | some child =>
      have below : reach rest child = none := by
        simpa only [reach, stepped, Option.bind_some] using missing
      obtain ⟨way, other, more, found, rfl, reached, absent⟩ := ih below
      have here : reach (key :: way) document = some found := by
        simpa only [reach, stepped, Option.bind_some] using reached
      exact ⟨key :: way, other, more, found, rfl, here, absent⟩

theorem farthestStop {way : List String} {key : String} {document found : Document}
    (reached : reach way document = some found) (absent : found.member? key = none)
    (rest : List String) : Farthest way (way ++ key :: rest) document found := by
  have beyond : ∀ more, reach (way ++ key :: more) document = none := by
    intro more
    simp only [reachAppend, reached, Option.bind_some, reach, absent, Option.bind_none]
  have longest : ∀ other there, other <+: way ++ key :: rest →
      reach other document = some there → other <+: way := by
    intro other there onWay gone
    rcases List.prefix_or_prefix_of_prefix onWay (List.prefix_append way _) with short | ⟨more, rfl⟩
    · exact short
    · cases more with
      | nil => simp
      | cons next more =>
        obtain ⟨rfl, _⟩ := List.cons_prefix_cons.mp ((List.prefix_append_right_inj way).mp onWay)
        rw [beyond] at gone
        contradiction
  exact ⟨List.prefix_append _ _, reached, longest⟩

theorem Farthest.unique {way other keys : List String} {document found there : Document}
    (farthest : Farthest way keys document found) (also : Farthest other keys document there) :
    way = other ∧ found = there := by
  have within := also.longest way found farthest.onWay farthest.reached
  have without := farthest.longest other there also.onWay also.reached
  have same := within.eq_of_length_le without.length_le
  subst same
  exact ⟨rfl, Option.some.inj (farthest.reached.symm.trans also.reached)⟩

theorem farthestExists (keys : List String) (document : Document) :
    ∃ way found, Farthest way keys document found := by
  cases reached : reach keys document with
  | some found => exact ⟨keys, found, List.prefix_refl _, reached, fun _ _ onWay _ => onWay⟩
  | none =>
    obtain ⟨way, key, rest, found, rfl, short, absent⟩ := reachStops reached
    exact ⟨way, found, farthestStop short absent rest⟩

theorem memberSingle {document : Document} (single : document.isObject = false) (key : String) :
    document.member? key = none := by
  cases document with
  | object members => contradiction
  | _ => rfl

theorem memberOfObject {document child : Document} {key : String}
    (found : document.member? key = some child) : document.isObject = true := by
  cases document with
  | object members => rfl
  | _ => contradiction

theorem memberKeepsOrder {document child : Document} (ordered : document.Ordered) {key : String}
    (found : document.member? key = some child) : child.Ordered := by
  cases ordered with
  | object _ inside => exact findOrdered inside found
  | _ => contradiction

theorem reachOrdered {keys : List String} {document found : Document} (ordered : document.Ordered)
    (reached : reach keys document = some found) : found.Ordered := by
  induction keys generalizing document with
  | nil =>
    cases Option.some.inj reached
    exact ordered
  | cons key rest ih =>
    obtain ⟨child, stepped, onward⟩ := Option.bind_eq_some_iff.mp reached
    exact ih (memberKeepsOrder ordered stepped) onward

theorem mergeReplaced {below top : Document} (single : below.isObject = false ∨ top.isObject = false) :
    merge below top = top := by
  rcases single with single | single
  · exact mergeReplaces (notObjectIff.mp single) top
  · exact mergeHides (notObjectIff.mp single) below

theorem memberMerge {top : Document} (ordered : top.Ordered) (kind : top.isObject = true)
    (below : Document) (key : String) :
    (merge below top).member? key = stack (below.member? key) (top.member? key) := by
  cases under : below.isObject with
  | false => rw [mergeReplaced (.inl under), memberSingle under, stackNothing]
  | true =>
    obtain ⟨members, rfl⟩ := isObjectIff.mp under
    obtain ⟨upper, rfl⟩ := isObjectIff.mp kind
    have ascending : Entries.Ascending upper := (membersOrdered ordered).1
    rw [mergeObjects]
    exact findMergeMembers ascending.nodup members key

theorem reachMerge {keys : List String} {top found : Document} (ordered : top.Ordered)
    (reached : reach keys top = some found) (below : Document) :
    reach keys (merge below top) = stack (reach keys below) (some found) := by
  induction keys generalizing below top with
  | nil =>
    cases Option.some.inj reached
    rfl
  | cons key rest ih =>
    obtain ⟨child, stepped, onward⟩ := Option.bind_eq_some_iff.mp reached
    have inOrder := memberKeepsOrder ordered stepped
    rw [reach, memberMerge ordered (memberOfObject stepped), stepped, reach]
    cases below.member? key with
    | none => exact onward
    | some lower => exact ih inOrder onward lower

theorem reachThrough {way : List String} {key : String} {top found : Document} (ordered : top.Ordered)
    (reached : reach way top = some found) (absent : found.member? key = none) (below : Document)
    (rest : List String) :
    reach (way ++ key :: rest) (merge below top) =
      if found.isObject = true then reach (way ++ key :: rest) below else none := by
  rw [reachAppend, reachMerge ordered reached, reachAppend]
  cases reach way below with
  | none => simp only [stack, Option.bind_some, reach, absent, Option.bind_none, ite_self]
  | some under =>
    simp only [stack, Option.bind_some, reach]
    cases kind : found.isObject with
    | true => rw [memberMerge (reachOrdered ordered reached) kind, absent, stackMissing, if_pos rfl]
    | false => rw [mergeReplaced (.inr kind), absent]; rfl

theorem mergedAtPlaces (below : Document) {top : Document} (ordered : top.Ordered)
    (keys : List String) :
    (∀ found, reach keys top = some found →
      (∀ under, reach keys below = some under →
        reach keys (merge below top) = some (merge under found)) ∧
      (reach keys below = none → reach keys (merge below top) = some found)) ∧
    (∃ way found, Farthest way keys top found) ∧
    (∀ way found, Farthest way keys top found → reach keys top = none →
      (found.isObject = true → reach keys (merge below top) = reach keys below) ∧
      (found.isObject = false → reach keys (merge below top) = none)) ∧
    (below.isObject = false ∨ top.isObject = false → merge below top = top) := by
  refine ⟨?_, farthestExists keys top, ?_, mergeReplaced⟩
  · intro found reached
    rw [reachMerge ordered reached]
    exact ⟨fun under there => by rw [there, stack], fun missing => by rw [missing, stack]⟩
  · intro way found farthest missing
    obtain ⟨short, key, rest, there, rfl, reached, absent⟩ := reachStops missing
    obtain ⟨rfl, rfl⟩ := farthest.unique (farthestStop reached absent rest)
    rw [reachThrough ordered reached absent]
    exact ⟨fun kind => if_pos kind, fun kind => by rw [kind]; rfl⟩

/- What the upper object leaves out is seen through it; a number over an object hides what is in it. -/
theorem traceSeenNameHidden :
    let below : Document := .object [("log", .object [("trace", .boolean true),
      ("verbosity", .integer 0)]), ("name", .object [("short", .text "a")])]
    let log : Document := .object [("verbosity", .integer 2)]
    let top : Document := .object [("log", log), ("name", .integer 5)]
    top.Ordered ∧
      reach ["log", "verbosity"] (merge below top) = some (merge (.integer 0) (.integer 2)) ∧
      Farthest ["log"] ["log", "trace"] top log ∧
      reach ["log", "trace"] (merge below top) = some (.boolean true) ∧
      Farthest ["name"] ["name", "short"] top (.integer 5) ∧
      reach ["name", "short"] (merge below top) = none := by
  intro below log top
  have lower : log.Ordered := .object (List.pairwise_singleton _ _) (by simp [Ordered.integer])
  have ordered : top.Ordered := by
    have ascending : Entries.Ascending top.members := by decide
    have inside : ∀ pair ∈ top.members, pair.2.Ordered := by
      simp [top, members, lower, Ordered.integer]
    exact .object ascending inside
  have trace : Farthest ["log"] ["log", "trace"] top log := farthestStop rfl rfl []
  have name : Farthest ["name"] ["name", "short"] top (.integer 5) := farthestStop rfl rfl []
  obtain ⟨present, _⟩ := mergedAtPlaces below ordered ["log", "verbosity"]
  obtain ⟨_, _, seen, _⟩ := mergedAtPlaces below ordered ["log", "trace"]
  obtain ⟨_, _, hidden, _⟩ := mergedAtPlaces below ordered ["name", "short"]
  exact ⟨ordered, (present _ rfl).1 _ rfl, trace, (seen _ _ trace rfl).1 rfl, name,
    (hidden _ _ name rfl).2 rfl⟩

end LeveledLogging.Document
