import LeveledLogging.Fields
import LeveledLogging.Entries
import Mathlib.Data.Finset.Card
/-! Fields known from what was set in them. However fields come about, they are the ones that setting
the same pairs one after another makes (`fieldsEntered`): a key stands where it was set first and has
the value that was set last. Merging puts the pairs of both behind each other, so that it is
associative, and merging with the same fields again changes nothing (`insertionOrderKept`). -/
namespace LeveledLogging.Fields

theorem lastOfFields (fields : Fields) (key : String) : lastOf fields.pairs key = fields.get? key :=
  Entries.lastOfDistinct fields.distinct key

theorem getSetAll (fields : Fields) (pairs : List (String × Value)) (key : String) :
    (fields.setAll pairs).get? key = (lastOf pairs key).or (fields.get? key) := by
  induction pairs generalizing fields with
  | nil => rfl
  | cons pair rest ih =>
    change ((fields.set pair.1 pair.2).setAll rest).get? key = _
    rw [ih, getSet, lastOf, Option.or_assoc]
    by_cases same : key = pair.1
    · simp [same]
    · simp [same, Ne.symm same]

theorem getOfPairs (pairs : List (String × Value)) (key : String) :
    (ofPairs pairs).get? key = lastOf pairs key := by
  rw [ofPairs, getSetAll]
  exact Option.or_none

theorem lastOfMerge (first second : Fields) (key : String) :
    lastOf (first.merge second).pairs key = lastOf (first.pairs ++ second.pairs) key := by
  rw [lastOfFields, merge, getSetAll, lastOfAppend, lastOfFields first]

theorem keysSetAll (fields : Fields) (pairs : List (String × Value)) :
    (fields.setAll pairs).keys =
      fields.keys ++ ((pairs.map Prod.fst).removeAll fields.keys).eraseDups := by
  induction pairs generalizing fields with
  | nil => exact (List.append_nil _).symm
  | cons pair rest ih =>
    change ((fields.set pair.1 pair.2).setAll rest).keys = _
    rw [ih, keysSet, List.map_cons, List.cons_removeAll]
    by_cases present : pair.1 ∈ fields.keys
    · simp [present]
    · have others : (rest.map Prod.fst).removeAll (fields.keys ++ [pair.1]) =
          ((rest.map Prod.fst).removeAll fields.keys).filter (fun key => !key == pair.1) := by
        simp only [List.removeAll, List.filter_filter, List.elem_eq_mem, List.mem_append,
          List.mem_singleton]
        refine List.filter_congr fun key _ => ?_
        by_cases same : key = pair.1 <;> simp [same]
      simp [present, others, List.eraseDups_cons]

theorem keysOfPairs (pairs : List (String × Value)) :
    (ofPairs pairs).keys = (pairs.map Prod.fst).eraseDups := by
  have all : (pairs.map Prod.fst).removeAll [] = pairs.map Prod.fst := by simp [List.removeAll]
  rw [ofPairs, keysSetAll]
  exact congrArg List.eraseDups all

theorem pairsListed (fields : Fields) :
    (fields.pairs.map fun pair => (pair.1, some pair.2)) =
      fields.keys.map fun key => (key, fields.get? key) := by
  rw [keys, List.map_map]
  refine List.map_congr_left fun pair inside => ?_
  have found : fields.get? pair.1 = some pair.2 := Entries.findMember fields.distinct inside
  exact congrArg (Prod.mk pair.1) found.symm

theorem sameFields {one other : Fields} (keys : one.keys = other.keys)
    (values : ∀ key, one.get? key = other.get? key) : one = other := by
  have listed := (pairsListed one).trans (.trans (by simp only [keys, values]) (pairsListed other).symm)
  have apart : Function.Injective fun pair : String × Value => (pair.1, some pair.2) := by
    intro a b same
    exact Prod.ext (Prod.mk.inj same).1 (Option.some.inj (Prod.mk.inj same).2)
  exact Fields.ext (List.map_injective_iff.mpr apart listed)

theorem containsIff {fields : Fields} {key : String} :
    fields.contains key = true ↔ key ∈ fields.keys := by
  have absent : fields.get? key = none ↔ key ∉ fields.keys := Entries.findNone
  rw [contains, Option.isSome_iff_ne_none, Ne, absent, not_not]

theorem containsSet (fields : Fields) (key k : String) (value : Value) :
    (fields.set key value).contains k = (decide (k = key) || fields.contains k) := by
  rw [contains, getSet]
  by_cases same : k = key
  · simp [same]
  · simp [same, contains]

theorem enterAdds (key : String) (value : Value) (pairs : List (String × Value)) :
    (enter key value pairs).1 = !(pairs.lookup key).isSome := by
  induction pairs with
  | nil => rfl
  | cons pair rest ih =>
    rw [enter, lookupCons]
    by_cases here : pair.1 = key
    · simp [here]
    · simp [here, ih]

theorem putSet (fields : Fields) (key : String) (value : Value) :
    fields.put key value = (!fields.contains key, fields.set key value) :=
  Prod.ext (enterAdds key value fields.pairs) (Fields.ext (enterPlace key value fields.pairs))

theorem absorbPairs (any : Bool) (fields : Fields) (pairs : List (String × Value)) :
    pairs.foldl putAlso (any, fields) =
      (any || pairs.any (fun pair => !fields.contains pair.1), fields.setAll pairs) := by
  induction pairs generalizing any fields with
  | nil => simp [setAll]
  | cons pair rest ih =>
    have step : putAlso (any, fields) pair =
        (any || !fields.contains pair.1, fields.set pair.1 pair.2) := by
      simp only [putAlso, putSet]
    rw [List.foldl_cons, step, ih]
    refine Prod.ext ?_ rfl
    cases present : fields.contains pair.1 with
    | false => simp [present]
    | true =>
      have kept : ∀ key, (fields.set pair.1 pair.2).contains key = fields.contains key := by
        intro key
        rw [containsSet]
        by_cases same : key = pair.1
        · simp [same, present]
        · simp [same]
      simp [kept, present]

theorem absorbMerge (fields other : Fields) :
    fields.absorb other = (fields.gains other, fields.merge other) := by
  rw [absorb, absorbPairs, Bool.false_or, gains, keys, List.any_map]
  rfl

theorem gainsIff {fields other : Fields} :
    fields.gains other = true ↔ ∃ key ∈ other.keys, key ∉ fields.keys := by
  simp [gains, ← containsIff]

/- How fields come about. To set a key in place and to hand the fields on with it are one. -/
inductive Assembly where
  | empty
  | set (before : Assembly) (key : String) (value : Value)
  | merge (before other : Assembly)
  | collect (pairs : List (String × Value))

namespace Assembly

def fields : Assembly → Fields
  | empty => .empty
  | set before key value => (before.fields.put key value).2
  | merge before other => (before.fields.absorb other.fields).2
  | collect pairs => ofPairs pairs

def entered : Assembly → List (String × Value)
  | empty => []
  | set before key value => before.entered ++ [(key, value)]
  | merge before other => before.entered ++ other.entered
  | collect pairs => pairs

end Assembly

theorem setAllOfPairs (before after : List (String × Value)) :
    (ofPairs before).setAll after = ofPairs (before ++ after) := List.foldl_append.symm

theorem eraseDupsDistinct {keys : List String} (distinct : keys.Nodup) : keys.eraseDups = keys := by
  induction keys with
  | nil => rfl
  | cons key rest ih =>
    obtain ⟨fresh, tail⟩ := List.nodup_cons.mp distinct
    have others : rest.filter (fun other => !other == key) = rest := by
      rw [List.filter_eq_self]
      intro other inside
      have differs : other ≠ key := fun same => fresh (same ▸ inside)
      simp [differs]
    rw [List.eraseDups_cons, others, ih tail]

theorem eraseDupsFilter (wanted : String → Bool) (keys : List String) :
    (keys.filter wanted).eraseDups = keys.eraseDups.filter wanted := by
  match keys with
  | [] => rfl
  | key :: rest =>
    -- What is left behind the first key is no tail of the list, so the length goes down instead.
    have others := eraseDupsFilter wanted (rest.filter fun other => !other == key)
    rw [List.eraseDups_cons]
    cases kept : wanted key with
    | true =>
      rw [List.filter_cons_of_pos kept, List.filter_cons_of_pos kept, List.eraseDups_cons, ← others,
        List.filter_comm]
    | false =>
      have without : (rest.filter fun other => !other == key).filter wanted = rest.filter wanted := by
        rw [List.filter_filter]
        refine List.filter_congr fun other _ => ?_
        by_cases same : other = key
        · simp [same, kept]
        · simp [same]
      rw [List.filter_cons_of_neg (by simp [kept]), List.filter_cons_of_neg (by simp [kept]), ← others,
        without]
termination_by keys.length
decreasing_by exact Nat.lt_succ_of_le (List.length_filter_le _ _)

theorem mergeOfPairs (before after : List (String × Value)) :
    (ofPairs before).merge (ofPairs after) = ofPairs (before ++ after) := by
  refine sameFields ?_ ?_
  · have members : ∀ keys : List String, keys.removeAll (before.map Prod.fst).eraseDups =
        keys.removeAll (before.map Prod.fst) := by
      intro keys
      exact List.filter_congr fun key _ => by simp
    have gathered : ((ofPairs after).keys.removeAll (before.map Prod.fst)).eraseDups =
        ((after.map Prod.fst).removeAll (before.map Prod.fst)).eraseDups := by
      have once : ((ofPairs after).keys.removeAll (before.map Prod.fst)).Nodup :=
        (ofPairs after).distinct.filter _
      rw [eraseDupsDistinct once, keysOfPairs, List.removeAll, List.removeAll, eraseDupsFilter]
    rw [merge, keysSetAll, ← keys, keysOfPairs before, keysOfPairs (before ++ after), members, gathered,
      List.map_append, List.eraseDups_append]
  · intro key
    rw [merge, getSetAll, lastOfFields, getOfPairs, getOfPairs, getOfPairs,
      lastOfAppend]

theorem ofPairsTwice (pairs : List (String × Value)) : ofPairs (pairs ++ pairs) = ofPairs pairs := by
  refine sameFields ?_ ?_
  · have nothing : (pairs.map Prod.fst).removeAll (pairs.map Prod.fst) = [] := by
      simp [List.removeAll]
    rw [keysOfPairs, keysOfPairs, List.map_append, List.eraseDups_append, nothing]
    exact List.append_nil _
  · intro key
    rw [getOfPairs, getOfPairs, lastOfAppend, Option.or_self]

theorem Assembly.fieldsEntered (made : Assembly) : made.fields = ofPairs made.entered := by
  induction made with
  | empty => rfl
  | set before key value ih =>
    rw [fields, putSet, ih, entered, ← setAllOfPairs]
    rfl
  | merge before other ih ihOther => rw [fields, absorbMerge, ih, ihOther, entered, mergeOfPairs]
  | collect pairs => rfl

theorem sizeOfPairs (pairs : List (String × Value)) :
    (ofPairs pairs).size = (pairs.map Prod.fst).toFinset.card := by
  have members : (ofPairs pairs).keys.toFinset = (pairs.map Prod.fst).toFinset := by
    ext key
    rw [List.mem_toFinset, List.mem_toFinset, keysOfPairs, List.mem_eraseDups]
  have once : (ofPairs pairs).keys.Nodup := (ofPairs pairs).distinct
  rw [← members, List.toFinset_card_of_nodup once, keys, List.length_map]
  rfl

theorem insertionOrderKept (made : Assembly) :
    made.fields.keys.Nodup ∧
    made.fields.keys = (made.entered.map Prod.fst).eraseDups ∧
    (∀ key value, (key, value) ∈ made.fields.pairs ↔ lastOf made.entered key = some value) ∧
    (∀ key, made.fields.get? key = lastOf made.entered key) ∧
    made.fields.size = (made.entered.map Prod.fst).toFinset.card ∧
    (∀ key value, (made.fields.put key value).1 = true ↔ key ∉ made.fields.keys) ∧
    (∀ other : Assembly, (made.fields.absorb other.fields).1 = true ↔
      ∃ key ∈ other.fields.keys, key ∉ made.fields.keys) ∧
    (∀ other : Assembly, (made.merge other).fields = ofPairs (made.entered ++ other.fields.pairs)) ∧
    (∀ other third : Assembly, ((made.merge other).merge third).fields =
      (made.merge (other.merge third)).fields) ∧
    (made.merge made).fields = made.fields := by
  have found : ∀ key, made.fields.get? key = lastOf made.entered key := by
    intro key
    rw [made.fieldsEntered, getOfPairs]
  refine ⟨made.fields.distinct, ?_, ?_, found, ?_, ?_, ?_, ?_, ?_, ?_⟩
  · rw [made.fieldsEntered, keysOfPairs]
  · intro key value
    rw [← found, ← lastOfFields, lastOfUnique made.fields.distinct]
  · rw [made.fieldsEntered, sizeOfPairs]
  · intro key value
    rw [putSet, Bool.not_eq_true', Bool.eq_false_iff, Ne, containsIff]
  · intro other
    rw [absorbMerge, gainsIff]
  · intro other
    rw [Assembly.fields, absorbMerge, made.fieldsEntered, merge, setAllOfPairs]
  · intro other third
    simp only [Assembly.fieldsEntered, Assembly.entered, List.append_assoc]
  · rw [Assembly.fieldsEntered, Assembly.entered, ofPairsTwice, made.fieldsEntered]

example :
    (Assembly.merge (.collect [("a", .integer 1), ("b", .text "two")])
      (.collect [("c", .boolean true), ("a", .integer 10)])).fields =
    ⟨[("a", .integer 10), ("b", .text "two"), ("c", .boolean true)], by decide⟩ := by decide

end LeveledLogging.Fields
