import LeveledLogging.Proofs.Insertions
import LeveledLogging.Proofs.Origins
/-! Wrappers around each other and one wrapper with the fields of both. A message has the same scope,
text and place either way, and the same value last under every key. The keys that have no place of
their own are kept with every value that was set for them: where both wrappers have such a key, the
nested ones give both values, and the merged one gives the outer value where the inner one stood
(`nestingAgainstMerging`). -/
namespace LeveledLogging

namespace Fields

theorem placeAbsent {key : String} {pairs : List (String × Value)} (absent : key ∉ pairs.map Prod.fst)
    (value : Value) : place key value pairs = pairs ++ [(key, value)] := by
  induction pairs with
  | nil => rfl
  | cons pair rest ih =>
    simp only [List.map_cons, List.mem_cons, not_or] at absent
    rw [place, if_neg (Ne.symm absent.1), ih absent.2, List.cons_append]

theorem placePresent {key : String} {pairs : List (String × Value)}
    (distinct : (pairs.map Prod.fst).Nodup) (present : key ∈ pairs.map Prod.fst) (value : Value) :
    place key value pairs =
      pairs.map fun pair => (pair.1, if pair.1 = key then value else pair.2) := by
  induction pairs with
  | nil => contradiction
  | cons pair rest ih =>
    obtain ⟨fresh, tail⟩ := List.nodup_cons.mp distinct
    rw [place, List.map_cons]
    by_cases here : pair.1 = key
    · have kept : ∀ other ∈ rest, (other.1, if other.1 = key then value else other.2) = id other := by
        intro other inside
        have differs : other.1 ≠ key := by
          intro same
          exact fresh (List.mem_map.mpr ⟨other, inside, same.trans here.symm⟩)
        rw [if_neg differs, id]
      rw [if_pos here, if_pos here, List.map_congr_left kept, List.map_id]
    · have later : key ∈ rest.map Prod.fst := by simpa [Ne.symm here] using present
      rw [if_neg here, if_neg here, ih tail later]

theorem pairsSetAll (fields : Fields) {pairs : List (String × Value)}
    (once : (pairs.map Prod.fst).Nodup) :
    (fields.setAll pairs).pairs =
      fields.pairs.map (fun pair => (pair.1, (lastOf pairs pair.1).getD pair.2)) ++
        pairs.filter (·.1 ∉ fields.keys) := by
  induction pairs generalizing fields with
  | nil => simp [setAll, lastOf]
  | cons pair rest ih =>
    obtain ⟨fresh, tail⟩ := List.nodup_cons.mp once
    have silent : lastOf rest pair.1 = none := lastOfNone.mpr fresh
    change ((fields.set pair.1 pair.2).setAll rest).pairs = _
    rw [ih (fields.set pair.1 pair.2) tail, keysSet, pairsSet]
    by_cases present : pair.1 ∈ fields.keys
    · rw [if_pos present, placePresent fields.distinct present, List.map_map,
        List.filter_cons_of_neg (by simpa)]
      refine congrArg (· ++ _) (List.map_congr_left ?_)
      intro other _
      by_cases same : other.1 = pair.1
      · simp [lastOf, same, silent]
      · simp [lastOf, same, Ne.symm same]
    · have behind : rest.filter (·.1 ∉ fields.keys ++ [pair.1]) =
          rest.filter (·.1 ∉ fields.keys) := by
        refine List.filter_congr ?_
        intro other inside
        have differs : other.1 ≠ pair.1 := fun same => fresh (List.mem_map.mpr ⟨other, inside, same⟩)
        simp [differs]
      have kept : ∀ other ∈ fields.pairs, lastOf (pair :: rest) other.1 = lastOf rest other.1 := by
        intro other inside
        have differs : pair.1 ≠ other.1 := fun same =>
          present (List.mem_map.mpr ⟨other, inside, same.symm⟩)
        simp [lastOf, differs]
      rw [if_neg present, placeAbsent present, List.filter_cons_of_pos (by simpa), behind,
        List.map_append, List.map_singleton, silent, List.append_assoc]
      refine congrArg (· ++ _) (List.map_congr_left ?_)
      intro other inside
      rw [kept other inside]

def renewed (fields other : Fields) : List (String × Value) :=
  fields.pairs.map fun pair => (pair.1, (other.get? pair.1).getD pair.2)

def added (other fields : Fields) : List (String × Value) :=
  fields.pairs.filter (·.1 ∉ other.keys)

theorem pairsMerge (first second : Fields) :
    (first.merge second).pairs = first.renewed second ++ first.added second := by
  simp only [merge, pairsSetAll first second.distinct, lastOfFields, renewed, added]

/- A key that both have has a place of its own in a record. -/
def Apart (first second : Fields) : Prop :=
  ∀ key ∈ first.keys, key ∈ second.keys → key ∈ Record.placedKeys

end Fields

namespace Record

def ordinary (pairs : List (String × Value)) : List (String × String) :=
  (pairs.filter (·.1 ∉ placedKeys)).map fun pair => (pair.1, pair.2.display)

theorem ordinaryAppend (before after : List (String × Value)) :
    ordinary (before ++ after) = ordinary before ++ ordinary after := by
  simp [ordinary]

theorem lastOfOrdinary (pairs : List (String × Value)) (key : String) :
    lastOf (ordinary pairs) key =
      if key ∈ placedKeys then none else (lastOf pairs key).map Value.display := by
  induction pairs with
  | nil => simp [ordinary, lastOf]
  | cons pair rest ih =>
    have split : ordinary (pair :: rest) = ordinary [pair] ++ ordinary rest := ordinaryAppend [pair] rest
    rw [split, lastOfAppend, ih, lastOf]
    by_cases same : pair.1 = key
    · by_cases placed : key ∈ placedKeys
      · simp [ordinary, lastOf, same, placed]
      · cases lastOf rest key <;> simp [ordinary, lastOf, same, placed]
    · by_cases placed : pair.1 ∈ placedKeys <;> simp [ordinary, lastOf, same, placed]

structure Alike (record other : Record) : Prop where
  scope : record.scope = other.scope
  text : record.text = other.text
  file : record.file = other.file
  line : record.line = other.line
  last : ∀ key, lastOf record.values key = lastOf other.values key

theorem alikePairs {pairs other : List (String × Value)}
    (same : ∀ key, lastOf pairs key = lastOf other key) : (ofPairs pairs).Alike (ofPairs other) := by
  have holds := holdsPairs pairs
  have holdsToo := holdsPairs other
  constructor
  · simp only [holds.scope, holdsToo.scope, lastText, same]
  · simp only [holds.text, holdsToo.text, lastText, same]
  · simp only [holds.file, holdsToo.file, lastText, same]
  · simp only [holds.line, holdsToo.line, same]
  · intro key
    rw [holds.values, holdsToo.values, ← ordinary, ← ordinary, lastOfOrdinary, lastOfOrdinary, same]

theorem Alike.same {record other : Record} (alike : record.Alike other) :
    record = other ↔ record.values = other.values := by
  constructor
  · exact congrArg Record.values
  · intro values
    obtain ⟨scope, text, file, line, _⟩ := alike
    cases record
    cases other
    exact mk.injEq .. ▸ ⟨scope, text, values, file, line⟩

theorem valuesOrdinary (pairs : List (String × Value)) : (ofPairs pairs).values = ordinary pairs :=
  valuesOfPairs pairs

theorem ordinaryRenewed (first second : Fields) :
    ordinary (first.renewed second) = (first.pairs.filter (·.1 ∉ placedKeys)).map fun pair =>
      (pair.1, ((second.get? pair.1).getD pair.2).display) := by
  simp only [ordinary, Fields.renewed, List.filter_map, List.map_map, Function.comp_def]

theorem renewedApart {first second : Fields} (apart : first.Apart second) :
    ordinary (first.renewed second) = ordinary first.pairs := by
  rw [ordinaryRenewed, ordinary]
  refine List.map_congr_left ?_
  intro pair inside
  obtain ⟨there, loose⟩ := List.mem_filter.mp inside
  have absent : pair.1 ∉ second.keys := fun both =>
    of_decide_eq_true loose (apart pair.1 (List.mem_map_of_mem there) both)
  have silent : second.get? pair.1 = none := Entries.findNone.mpr absent
  rw [silent, Option.getD_none]

theorem addedApart {first second : Fields} (apart : first.Apart second) :
    ordinary (first.added second) = ordinary second.pairs := by
  unfold ordinary Fields.added
  rw [List.filter_filter]
  refine congrArg (List.map _) (List.filter_congr ?_)
  intro pair inside
  by_cases both : pair.1 ∈ first.keys
  · simp [apart pair.1 both (List.mem_map_of_mem inside)]
  · simp [both]

theorem apartOfAdded {first second : Fields}
    (whole : (ordinary (first.added second)).length = (ordinary second.pairs).length) :
    first.Apart second := by
  unfold ordinary Fields.added at whole
  rw [List.filter_comm, List.length_map, List.length_map, List.length_filter_eq_length_iff] at whole
  intro key both listed
  obtain ⟨pair, inside, rfl⟩ := List.mem_map.mp listed
  by_contra loose
  have fresh := whole pair (List.mem_filter.mpr ⟨inside, decide_eq_true loose⟩)
  exact of_decide_eq_true fresh both

theorem nestedAgainstMerged (first second : Fields) (front back : List (String × Value)) :
    let nested := ofPairs (front ++ first.pairs ++ second.pairs ++ back)
    let merged := ofPairs (front ++ (first.merge second).pairs ++ back)
    nested.Alike merged ∧
      nested.values =
        ordinary front ++ ordinary first.pairs ++ ordinary second.pairs ++ ordinary back ∧
      merged.values = ordinary front ++ ordinary (first.renewed second) ++
        ordinary (first.added second) ++ ordinary back ∧
      (nested = merged ↔ first.Apart second) := by
  intro nested merged
  have alike : nested.Alike merged := by
    refine alikePairs fun key => ?_
    simp only [lastOfAppend, Fields.lastOfMerge, Option.or_assoc]
  have one : nested.values =
      ordinary front ++ ordinary first.pairs ++ ordinary second.pairs ++ ordinary back := by
    simp only [nested, valuesOrdinary, ordinaryAppend]
  have other : merged.values = ordinary front ++ ordinary (first.renewed second) ++
      ordinary (first.added second) ++ ordinary back := by
    simp only [merged, valuesOrdinary, ordinaryAppend, Fields.pairsMerge, List.append_assoc]
  refine ⟨alike, one, other, ?_⟩
  rw [alike.same, one, other]
  constructor
  · intro same
    have lengths := congrArg List.length same
    have kept : (ordinary (first.renewed second)).length = (ordinary first.pairs).length := by
      rw [ordinaryRenewed, ordinary, List.length_map, List.length_map]
    simp only [List.length_append, kept] at lengths
    exact apartOfAdded (by omega)
  · intro apart
    rw [renewedApart apart, addedApart apart]

theorem ordinaryCall (call : Call) (site : CallSite) :
    ordinary (call.pairs site) = ordinary call.fields.pairs := by
  have site : ordinary site.pairs = [] := rfl
  have text : ordinary [(messageKey, .text call.text)] = [] := rfl
  rw [Call.pairs, ordinaryAppend, ordinaryAppend, site, text, List.nil_append, List.append_nil]

end Record

/- What a message under nested wrappers has in common with the message under their fields in one
wrapper, and in which order each has its values. -/
structure Message.Nests (one other : Message) (front : List (String × Value)) (first second : Fields)
    (back : List (String × Value)) : Prop where
  name : one.name = other.name
  level : one.level = other.level
  trace : one.trace = other.trace
  alike : one.record.Alike other.record
  nested : one.record.values = Record.ordinary front ++ Record.ordinary first.pairs ++
    Record.ordinary second.pairs ++ Record.ordinary back
  merged : other.record.values = Record.ordinary front ++ Record.ordinary (first.renewed second) ++
    Record.ordinary (first.added second) ++ Record.ordinary back
  same : one.record = other.record ↔ first.Apart second

namespace Context

theorem sendSame {context : Context} (sound : context.Sound) (now : Moment) {message other : Message}
    (record : message.record = other.record) (name : message.name = other.name)
    (level : message.level = other.level) (trace : message.trace = other.trace) :
    context.send now message = context.send now other := by
  unfold send
  cases found : context.backend.output with
  | lines sink _ => simp only [record, name, level, trace]
  | events => simp only [record, name, level]
  | calls refusing =>
    rw [Sound, found] at sound
    contradiction

def Accepts (context : Context) (logger : Logger) (level : Level) : Prop :=
  ∃ name, logger.name? = some name ∧ level ≠ .off ∧ level ≤ context.level name.segments

theorem callIgnored {context : Context} (sound : context.Sound) (now : Moment) (site : CallSite)
    {logger : Logger} {call : Call} (refused : ¬ context.Accepts logger call.level) :
    call.run context now site logger = context := by
  cases bound : logger.name? with
  | none => rw [Call.runSendNew, sendNew, newMessageOf, Logger.requestUnnamed bound]
  | some name => exact callRefused sound now site bound call fun allowed => refused ⟨name, bound, allowed⟩

theorem nestedSends {context : Context} (sound : context.Sound) (now : Moment) (site : CallSite)
    {inner : Logger} (first second : Fields) {call : Call}
    (accepted : context.Accepts inner call.level) :
    ∃ one other : Message,
      call.run context now site (.wrapping (.wrapping inner first) second) =
        (context.run call.formatting).send now one ∧
      call.run context now site (.wrapping inner (first.merge second)) =
        (context.run call.formatting).send now other ∧
      one.Nests other inner.fixed first second call.fields.pairs := by
  obtain ⟨name, bound, loggable, allowed⟩ := accepted
  have nested : (Logger.wrapping (.wrapping inner first) second).name? = some name := bound
  have merged : (Logger.wrapping inner (first.merge second)).name? = some name := bound
  obtain ⟨alike, apart, together, same⟩ :=
    Record.nestedAgainstMerged first second inner.fixed (call.pairs site)
  rw [Record.ordinaryCall] at apart together
  exact ⟨_, _, Call.runSends sound now site nested call loggable allowed,
    Call.runSends sound now site merged call loggable allowed,
    ⟨rfl, rfl, rfl, alike, apart, together, same⟩⟩

theorem nestingAgainstMerging {context : Context} (reachable : context.Reachable) (now : Moment)
    (site : CallSite) (inner : Logger) (first second : Fields) (call : Call) :
    let nested := Logger.wrapping (.wrapping inner first) second
    ∃ merged, (Logger.wrapping inner first).withFields second = some merged ∧
      (context.Accepts inner call.level → ∃ one other : Message,
        call.run context now site nested = (context.run call.formatting).send now one ∧
        call.run context now site merged = (context.run call.formatting).send now other ∧
        one.Nests other inner.fixed first second call.fields.pairs) ∧
      (¬ context.Accepts inner call.level → call.run context now site nested = context ∧
        call.run context now site merged = context) ∧
      (first.Apart second →
        call.run context now site nested = call.run context now site merged) := by
  intro nested
  have sound := reachable.sound
  have ignored : ¬ context.Accepts inner call.level → call.run context now site nested = context ∧
      call.run context now site (.wrapping inner (first.merge second)) = context :=
    fun refused => ⟨callIgnored sound now site refused, callIgnored sound now site refused⟩
  refine ⟨.wrapping inner (first.merge second), rfl,
    nestedSends sound now site first second, ignored, ?_⟩
  intro apart
  by_cases accepted : context.Accepts inner call.level
  · obtain ⟨one, other, sent, sentToo, nests⟩ :=
      nestedSends sound now site first second accepted
    rw [sent, sentToo]
    exact sendSame (runSound sound call.formatting) now (nests.same.mpr apart) nests.name nests.level
      nests.trace
  · rw [(ignored accepted).1, (ignored accepted).2]

theorem scopeNestedAsMerged :
    let start : Context := ⟨⟨.empty, .lines .supplied false⟩, .start ⟨[], []⟩⟩
    let context := start.run [.setLevel ["a"] .info]
    let inner : Logger := .named ⟨["a"], by decide⟩
    let first := Fields.ofPairs [("id", .integer 1), (scopeKey, .text "request")]
    let second := Fields.ofPairs [(scopeKey, .text "auth"), ("user", .text "alice")]
    let call := Call.say .info "hi"
    let now : Moment := ⟨0, 0, 0⟩
    let site : CallSite := ⟨"m", 1⟩
    context.Reachable ∧ context.Accepts inner .info ∧
      call.run context now site (.wrapping (.wrapping inner first) second) =
        call.run context now site (.wrapping inner (.ofPairs
          [("id", .integer 1), (scopeKey, .text "auth"), ("user", .text "alice")])) := by
  intro start context inner first second call now site
  have reachable : context.Reachable := ⟨start, _, ⟨rfl, trivial⟩, rfl⟩
  have apart : first.Apart second := by unfold Fields.Apart; decide
  obtain ⟨merged, made, _, _, same⟩ :=
    nestingAgainstMerging reachable now site inner first second call
  cases made
  exact ⟨reachable, ⟨_, rfl, by decide, by decide⟩, same apart⟩

/- A key that both wrappers have is there twice under the nested ones. -/
theorem sharedKeyTwice :
    let context : Context := ⟨⟨.set [] .info .empty, .lines .supplied false⟩, .start ⟨[], []⟩⟩
    let inner : Logger := .named ⟨["a"], by decide⟩
    let first := Fields.ofPairs [("k", .integer 1)]
    let second := Fields.ofPairs [("k", .integer 2)]
    let site : CallSite := ⟨"m", 1⟩
    let call := Call.say .info "hi"
    let now : Moment := ⟨0, 0, 0⟩
    let one : Message := ⟨["a"], .info, false, first.pairs ++ second.pairs ++ call.pairs site⟩
    let other : Message := ⟨["a"], .info, false, (first.merge second).pairs ++ call.pairs site⟩
    call.run context now site (.wrapping (.wrapping inner first) second) = context.send now one ∧
      (Logger.wrapping inner first).withFields second = some (.wrapping inner (first.merge second)) ∧
      call.run context now site (.wrapping inner (first.merge second)) = context.send now other ∧
      one.record.values = [("k", "1"), ("k", "2")] ∧ other.record.values = [("k", "2")] ∧
      one.record ≠ other.record := by
  intro context inner first second site call now one other
  exact ⟨rfl, rfl, rfl, by decide, by decide, by decide⟩

end Context

end LeveledLogging
