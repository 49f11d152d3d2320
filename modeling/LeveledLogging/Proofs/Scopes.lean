import LeveledLogging.Logger
import LeveledLogging.Proofs.Nesting
import Mathlib.Data.List.Infix
/-! Scopes that are added to a logger one after another. Each is put behind those that are there, with a
dot in between, so that several scopes come to one scope in which they are joined (`rescopedAgain`,
`rescopedJoined`). A logger is derived from another one by value: a program that keeps its loggers by
number gets a new one with every scope, and all that it has stay what they are (`scopesAccumulate`). -/
namespace LeveledLogging

namespace Text

theorem joinSingle (c : Char) (p : String) : join c [p] = p := by
  simp [join, joinChars]

theorem joinAppend {c : Char} {ps qs : List String} (first : ps ≠ []) (second : qs ≠ []) :
    join c (ps ++ qs) = join c ps ++ String.singleton c ++ join c qs := by
  apply String.toList_inj.mp
  have chars := joinCharsAppend (c := c) (show ps.map String.toList ≠ [] by simpa using first)
    (show qs.map String.toList ≠ [] by simpa using second)
  simp [join, chars]

theorem joinFirst {c : Char} {ps : List String} (any : ps ≠ []) (qs : List String) :
    join c (join c ps :: qs) = join c (ps ++ qs) := by
  by_cases last : qs = []
  · rw [last, List.append_nil, joinSingle]
  · rw [joinCons last, joinAppend any last]

theorem joinLast {c : Char} {qs : List String} (any : qs ≠ []) (ps : List String) :
    join c (ps ++ [join c qs]) = join c (ps ++ qs) := by
  by_cases first : ps = []
  · rw [first, List.nil_append, List.nil_append, joinSingle]
  · rw [joinAppend first (by simp), joinAppend first any, joinSingle]

theorem joinFilled {c : Char} {s : String} (filled : s ≠ "") (ps : List String) :
    join c (ps ++ [s]) ≠ "" := by
  intro nothing
  by_cases first : ps = []
  · rw [first, List.nil_append, joinSingle] at nothing
    exact filled nothing
  · rw [joinAppend first (by simp)] at nothing
    simpa using congrArg String.toList nothing

end Text

namespace Fields

theorem placeTwice (key : String) (first second : Value) (pairs : List (String × Value)) :
    place key second (place key first pairs) = place key second pairs := by
  induction pairs with
  | nil => simp [place]
  | cons pair rest ih =>
    by_cases here : pair.1 = key
    · simp [place, here]
    · simp [place, here, ih]

inductive Placed (key : String) (value : Value) :
    List (String × Value) → List (String × Value) → Prop where
  | kept {front old back} (first : key ∉ front.map Prod.fst) :
    Placed key value (front ++ (key, old) :: back) (front ++ (key, value) :: back)
  | behind {pairs} (absent : key ∉ pairs.map Prod.fst) :
    Placed key value pairs (pairs ++ [(key, value)])

theorem placePlaced (key : String) (value : Value) (pairs : List (String × Value)) :
    Placed key value pairs (place key value pairs) := by
  induction pairs with
  | nil => exact .behind (by simp)
  | cons pair rest ih =>
    obtain ⟨k, v⟩ := pair
    by_cases here : k = key
    · subst here
      rw [place, if_pos rfl]
      have first : k ∉ List.map Prod.fst ([] : List (String × Value)) := by simp
      exact .kept first
    · rw [place, if_neg here]
      generalize place key value rest = placed at ih ⊢
      cases ih with
      | @kept front old back first =>
        have still : key ∉ ((k, v) :: front).map Prod.fst := by simp [first, Ne.symm here]
        exact .kept still
      | behind absent =>
        have still : key ∉ ((k, v) :: rest).map Prod.fst := by simp [absent, Ne.symm here]
        exact .behind still

end Fields

namespace Logger

def scopeShown (fields : Fields) : List String :=
  match fields.get? scopeKey with
  | none => []
  | some present => if present.display = "" then [] else [present.display]

def scopeText (fields : Fields) (scopes : List String) : String :=
  Text.join '.' (scopeShown fields ++ scopes)

def rescoped (fields : Fields) (scopes : List String) : Fields :=
  fields.set scopeKey (.text (scopeText fields scopes))

theorem extendRescoped (fields : Fields) (scope : String) :
    extendScope fields scope = rescoped fields [scope] := by
  unfold extendScope rescoped scopeText scopeShown
  cases fields.get? scopeKey with
  | none => simp [Text.joinSingle]
  | some present =>
    by_cases silent : present.display = ""
    · simp [silent, Text.joinSingle]
    · have dot : Text.join '.' [present.display, scope] = present.display ++ "." ++ scope := by
        rw [Text.joinCons (by simp), Text.joinSingle]
        rfl
      simp [silent, dot]

theorem scopeShownRescoped (fields : Fields) {scope : String} (filled : scope ≠ "") :
    scopeShown (rescoped fields [scope]) = [scopeText fields [scope]] := by
  have visible : scopeText fields [scope] ≠ "" := Text.joinFilled filled _
  simp [scopeShown, rescoped, Fields.getSet, Value.display, visible]

theorem rescopedAgain (fields : Fields) {scope : String} (filled : scope ≠ "")
    (scopes : List String) :
    rescoped (rescoped fields [scope]) scopes = rescoped fields (scope :: scopes) := by
  have whole : scopeText (rescoped fields [scope]) scopes = scopeText fields (scope :: scopes) := by
    rw [scopeText, scopeShownRescoped fields filled, List.singleton_append, scopeText,
      Text.joinFirst (by simp), List.append_assoc, List.singleton_append, scopeText]
  rw [rescoped, whole]
  exact Fields.ext (Fields.placeTwice scopeKey _ _ fields.pairs)

theorem rescopedJoined (fields : Fields) {scopes : List String} (any : scopes ≠ []) :
    rescoped fields [Text.join '.' scopes] = rescoped fields scopes := by
  rw [rescoped, scopeText, Text.joinLast any, rescoped, scopeText]

def addScope (loggers : List Logger) (number : Nat) (scope : String) : List Logger :=
  loggers ++ (loggers[number]?.bind (·.scope scope)).toList

def addScopes (loggers : List Logger) (number : Nat) : List String → List Logger
  | [] => loggers
  | scope :: rest => addScopes (addScope loggers number scope) loggers.length rest

theorem addScopeFound {loggers : List Logger} {number : Nat} {inner : Logger} {fields : Fields}
    (found : loggers[number]? = some (.wrapping inner fields)) (scope : String) :
    addScope loggers number scope = loggers ++ [.wrapping inner (rescoped fields [scope])] := by
  rw [addScope, found, Option.bind_some, Logger.scope, extendRescoped]
  rfl

theorem addScopesFound {loggers : List Logger} {number : Nat} {inner : Logger} {fields : Fields}
    (found : loggers[number]? = some (.wrapping inner fields)) {scopes : List String}
    (filled : ∀ scope ∈ scopes, scope ≠ "") :
    addScopes loggers number scopes =
      loggers ++ scopes.inits.tail.map fun first => .wrapping inner (rescoped fields first) := by
  induction scopes generalizing loggers number fields with
  | nil => simp [addScopes]
  | cons scope rest ih =>
    have here : scope ≠ "" := filled scope List.mem_cons_self
    have newest : (loggers ++ [Logger.wrapping inner (rescoped fields [scope])])[loggers.length]? =
        some (.wrapping inner (rescoped fields [scope])) := List.getElem?_concat_length
    rw [addScopes, addScopeFound found, ih newest fun other inside =>
      filled other (List.mem_cons_of_mem _ inside)]
    have shortest : rest.inits = [] :: rest.inits.tail := by cases rest <;> rfl
    rw [List.inits_cons, List.tail_cons, shortest]
    simp [rescopedAgain fields here, Function.comp_def]

/- Fields with some scopes added: the scope there was, if any, and the others behind it. All other fields
are as they were and stand where they stood. -/
structure Scoped (fields : Fields) (scopes : List String) (derived : Fields) : Prop where
  scope : derived.get? scopeKey = some (.text (Text.join '.' (scopeShown fields ++ scopes)))
  others : ∀ key, key ≠ scopeKey → derived.get? key = fields.get? key
  places : Fields.Placed scopeKey (.text (Text.join '.' (scopeShown fields ++ scopes)))
    fields.pairs derived.pairs

theorem rescopedScoped (fields : Fields) (scopes : List String) :
    Scoped fields scopes (rescoped fields scopes) where
  scope := by rw [rescoped, Fields.getSet, if_pos rfl, scopeText]
  others := by
    intro key other
    rw [rescoped, Fields.getSet, if_neg other]
  places := Fields.placePlaced _ _ _

theorem scopesAccumulate {loggers : List Logger} {number : Nat} {inner : Logger} {fields : Fields}
    (found : loggers[number]? = some (.wrapping inner fields)) {scopes : List String}
    (filled : ∀ scope ∈ scopes, scope ≠ "") :
    ∃ made, addScopes loggers number scopes = loggers ++ made ∧ made.length = scopes.length ∧
      ∀ first, first ≠ [] → first <+: scopes → ∃ derived, Scoped fields first derived ∧
        made[first.length - 1]? = some (.wrapping inner derived) ∧
        addScope loggers number (Text.join '.' first) = loggers ++ [.wrapping inner derived] := by
  refine ⟨_, addScopesFound found filled, by simp, ?_⟩
  intro first any beginning
  refine ⟨rescoped fields first, rescopedScoped fields first, ?_, ?_⟩
  · have start : scopes.inits.tail[first.length - 1]? = some first := by
      have long : 0 < first.length := List.length_pos_iff.mpr any
      have within : first.length < scopes.inits.length := by
        rw [List.length_inits]
        exact Nat.lt_succ_of_le beginning.length_le
      rw [List.getElem?_tail, Nat.sub_add_cancel long, List.getElem?_eq_getElem within,
        List.getElem_inits, ← List.prefix_iff_eq_take.mp beginning]
    rw [List.getElem?_map, start]
    rfl
  · rw [addScopeFound found, rescopedJoined fields any]

theorem numberScopeExtended :
    let fields : Fields := .ofPairs [("a", .boolean true), (scopeKey, .integer 7), ("b", .text "x")]
    let derived : Fields :=
      .ofPairs [("a", .boolean true), (scopeKey, .text "7.in.out"), ("b", .text "x")]
    let loggers : List Logger := [.discarding, .wrapping .discarding fields]
    let made := [.wrapping .discarding (fields.set scopeKey (.text "7.in")),
      .wrapping .discarding derived]
    loggers[1]? = some (.wrapping .discarding fields) ∧
      addScopes loggers 1 ["in", "out"] = loggers ++ made ∧ Scoped fields ["in", "out"] derived := by
  intro fields derived loggers made
  have found : loggers[1]? = some (.wrapping .discarding fields) := rfl
  have filled : ∀ scope ∈ ["in", "out"], scope ≠ "" := by decide
  obtain ⟨list, derives, _, each⟩ := scopesAccumulate found filled
  obtain ⟨last, adds, there, _⟩ := each ["in", "out"] (by decide) List.prefix_rfl
  have same : loggers ++ list = loggers ++ made := derives.symm.trans (by decide)
  cases List.append_cancel_left same
  cases Option.some.inj there
  exact ⟨found, derives, adds⟩

end Logger

end LeveledLogging
