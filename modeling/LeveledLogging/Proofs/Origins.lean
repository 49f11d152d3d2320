import LeveledLogging.Proofs.Wrapping
/-! Where the place of a message comes from. The place of a call is set behind the fields of the
wrappers and in front of those of the call, and the last value counts: the fields of a call prevail
over the place of the call, and that prevails over all wrappers (`siteOverrulesWrappers`). A message
that is made without a call has the place of its most specific source. -/
namespace LeveledLogging

theorem lastOfFlatMap {α β γ : Type} [DecidableEq α] (pairsOf : γ → List (α × β)) (sources : List γ)
    (key : α) :
    lastOf (sources.flatMap pairsOf) key =
      sources.reverse.findSome? fun source => lastOf (pairsOf source) key := by
  induction sources with
  | nil => rfl
  | cons source rest ih =>
    rw [List.flatMap_cons, lastOfAppend, ih, List.reverse_cons, List.findSome?_append]
    simp

/- What the wrappers of a logger, innermost first, and the fields of a call say under a key. The most
specific source counts: the call, and then the outer wrappers before the inner ones. -/
def explicit (wrappers : List Fields) (fields : Fields) (key : String) : Option Value :=
  (fields :: wrappers.reverse).findSome? fun source => lastOf source.pairs key

theorem explicitBare (fields : Fields) (key : String) :
    explicit [] fields key = lastOf fields.pairs key := by
  cases said : lastOf fields.pairs key <;> simp [explicit, said]

theorem explicitCall {wrappers : List Fields} {fields : Fields} {key : String} {value : Value}
    (said : lastOf fields.pairs key = some value) : explicit wrappers fields key = some value := by
  simp [explicit, said]

theorem explicitWrappers {wrappers : List Fields} {fields : Fields} {key : String}
    (silent : lastOf fields.pairs key = none) :
    explicit wrappers fields key = explicit wrappers .empty key := by
  have nothing : lastOf Fields.empty.pairs key = none := rfl
  simp [explicit, silent, nothing]

theorem lastOfExplicit (wrappers : List Fields) (fields : Fields) (key : String) :
    lastOf (wrappers.flatMap Fields.pairs ++ fields.pairs) key = explicit wrappers fields key := by
  rw [lastOfAppend, lastOfFlatMap, explicit, List.findSome?_cons]
  cases lastOf fields.pairs key <;> rfl

namespace Call

theorem lastOfSets (call : Call) (site : CallSite) (front : List (String × Value)) {key : String}
    (other : key ≠ messageKey) :
    lastOf (front ++ call.pairs site) key =
      ((lastOf call.fields.pairs key).or (lastOf site.pairs key)).or (lastOf front key) := by
  have text : lastOf [(messageKey, Value.text call.text)] key = none := by
    simp [lastOf, Ne.symm other]
  rw [pairs, lastOfAppend, lastOfAppend, lastOfAppend, text, Option.none_or]

theorem runSends {context : Context} (sound : context.Sound) (now : Moment) (site : CallSite)
    {logger : Logger} {name} (bound : logger.name? = some name) (call : Call)
    (loggable : call.level ≠ .off) (allowed : call.level ≤ context.level name.segments) :
    call.run context now site logger =
      (context.run call.formatting).send now
        ⟨name.segments, call.level, context.trace, logger.fixed ++ call.pairs site⟩ := by
  rw [runSendNew, Context.sendNew, Context.newMessageOfSound sound bound,
    if_pos (And.intro loggable allowed)]
  simp [Message.setAll, Fields.empty]

end Call

namespace Logger

theorem wrappedName (name : LoggerName) (wrappers : List Fields) :
    (wrapped name wrappers).name? = some name := (wrappingAll (named name) wrappers).1

theorem wrappedFixed (name : LoggerName) (wrappers : List Fields) :
    (wrapped name wrappers).fixed = wrappers.flatMap Fields.pairs :=
  (wrappingAll (named name) wrappers).2.2

end Logger

namespace Record

structure Placed (record : Record) (site : CallSite) (wrappers : List Fields) (fields : Fields) :
    Prop where
  file : record.file = ((explicit wrappers fields fileKey).map Value.display).getD site.file
  line : record.line =
    ((explicit wrappers fields lineKey).map Value.integer?).getD (some (.ofNat site.line))

theorem placedBare (call : Call) (site : CallSite) (front : List (String × Value)) :
    (ofPairs (front ++ call.pairs site)).Placed site [] call.fields := by
  have holds := holdsPairs (front ++ call.pairs site)
  have file : lastOf site.pairs fileKey = some (.text site.file) := rfl
  have line : lastOf site.pairs lineKey = some (.integer (.ofNat site.line)) := rfl
  constructor
  · rw [holds.file, lastText, call.lastOfSets site front (by decide), file, explicitBare]
    cases lastOf call.fields.pairs fileKey <;> rfl
  · rw [holds.line, call.lastOfSets site front (by decide), line, explicitBare]
    cases lastOf call.fields.pairs lineKey <;> rfl

def Unopposed (wrappers : List Fields) (fields : Fields) (key : String) (harmless : Value → Prop) :
    Prop :=
  lastOf fields.pairs key ≠ none ∨ ∀ value ∈ explicit wrappers .empty key, harmless value

theorem unopposedIff {α : Type} (wrappers : List Fields) (fields : Fields) (key : String)
    (reading : Value → α) (otherwise : α) :
    ((explicit [] fields key).map reading).getD otherwise =
        ((explicit wrappers fields key).map reading).getD otherwise ↔
      Unopposed wrappers fields key fun value => reading value = otherwise := by
  rw [explicitBare]
  unfold Unopposed
  cases said : lastOf fields.pairs key with
  | some value => simp [explicitCall said]
  | none =>
    rw [explicitWrappers said]
    cases explicit wrappers .empty key <;> simp [eq_comm]

theorem placedIff {record : Record} {site : CallSite} {fields : Fields}
    (bare : record.Placed site [] fields) (wrappers : List Fields) :
    record.Placed site wrappers fields ↔
      Unopposed wrappers fields fileKey (fun value => value.display = site.file) ∧
        Unopposed wrappers fields lineKey
          fun value => value.integer? = some (.ofNat site.line) := by
  rw [← unopposedIff, ← unopposedIff, ← bare.file, ← bare.line]
  exact ⟨fun placed => ⟨placed.file, placed.line⟩, fun ⟨file, line⟩ => ⟨file, line⟩⟩

end Record

namespace Context

theorem siteOverrulesWrappers {context : Context} (reachable : context.Reachable) (now : Moment)
    (site : CallSite) (name : LoggerName) (wrappers : List Fields) (call : Call)
    (loggable : call.level ≠ .off) (allowed : call.level ≤ context.level name.segments) :
    let logger := Logger.wrapped name wrappers
    (∃ message : Message,
      call.run context now site logger = (context.run call.formatting).send now message ∧
      message.record.Placed site [] call.fields ∧
      (message.record.Placed site wrappers call.fields ↔
        Record.Unopposed wrappers call.fields fileKey (fun value => value.display = site.file) ∧
          Record.Unopposed wrappers call.fields lineKey
            fun value => value.integer? = some (.ofNat site.line))) ∧
    ∀ depth fields, ∃ message : Message,
      context.newMessageOf logger call.level depth fields = (some message, context) ∧
      message.record.file = ((explicit wrappers fields fileKey).map Value.display).getD "" ∧
      message.record.line = (explicit wrappers fields lineKey).bind Value.integer? := by
  intro logger
  have sound := reachable.sound
  have bound := Logger.wrappedName name wrappers
  constructor
  · let sets := wrappers.flatMap Fields.pairs ++ call.pairs site
    have bare : (Record.ofPairs sets).Placed site [] call.fields := Record.placedBare call site _
    refine ⟨⟨name.segments, call.level, context.trace, sets⟩, ?_, bare,
      Record.placedIff bare wrappers⟩
    rw [Call.runSends sound now site bound call loggable allowed, Logger.wrappedFixed]
  · intro depth fields
    let sets := wrappers.flatMap Fields.pairs ++ fields.pairs
    have holds := Record.holdsPairs sets
    refine ⟨⟨name.segments, call.level, context.trace, sets⟩, ?_, ?_, ?_⟩
    · rw [newMessageOfSound sound bound, if_pos (And.intro loggable allowed), Logger.wrappedFixed]
    · rw [← lastOfExplicit]
      exact holds.file
    · rw [← lastOfExplicit]
      exact holds.line

theorem lineOfCallKept :
    let start : Context := ⟨⟨.empty, .lines .supplied true⟩, .start ⟨[], []⟩⟩
    let context := start.run [.setLevel ["a"] .info]
    let name : LoggerName := ⟨["a", "b"], by decide⟩
    let wrappers : List Fields := [.ofPairs [(fileKey, .text "inner"), (lineKey, .integer 1)],
      .ofPairs [(fileKey, .text "outer")]]
    let call := Call.log .notice 0 "hi" (.ofPairs [(lineKey, .integer 2)])
    let now : Moment := ⟨0, 0, 0⟩
    let site : CallSite := ⟨"main", 3⟩
    context.Reachable ∧ call.level ≠ .off ∧ call.level ≤ context.level name.segments ∧
      (∃ message : Message, call.run context now site (.wrapped name wrappers) =
          context.send now message ∧
        message.record.file = "main" ∧ message.record.line = some 2) ∧
      ∃ message : Message,
        context.newMessageOf (.wrapped name wrappers) .notice 0 .empty = (some message, context) ∧
          message.record.file = "outer" ∧ message.record.line = some 1 := by
  intro start context name wrappers call now site
  have reachable : context.Reachable := ⟨start, _, ⟨rfl, trivial⟩, rfl⟩
  obtain ⟨⟨message, sent, placed, _⟩, made⟩ := siteOverrulesWrappers reachable now site name wrappers
    call (by decide) (by decide)
  exact ⟨reachable, by decide, by decide, ⟨message, sent, placed.file, placed.line⟩, made 0 .empty⟩

/- A wrapper that says where its messages come from is not heard. -/
theorem wrapperPlaceLost :
    let context : Context := ⟨⟨.set [] .debug .empty, .lines .supplied true⟩, .start ⟨[], []⟩⟩
    let name : LoggerName := ⟨["app"], by decide⟩
    let wrappers : List Fields := [.ofPairs [(fileKey, .text "gen.rs"), (lineKey, .integer 12)]]
    let call := Call.say .notice "generated"
    let now : Moment := ⟨0, 0, 0⟩
    let site : CallSite := ⟨"main.rs", 7⟩
    let message : Message := ⟨["app"], .notice, true, (wrappers.flatMap Fields.pairs) ++ call.pairs site⟩
    call.run context now site (.wrapped name wrappers) = context.send now message ∧
      message.record.origin = "main.rs:7" ∧ ¬ message.record.Placed site wrappers call.fields := by
  intro context name wrappers call now site message
  refine ⟨rfl, by decide, ?_⟩
  intro placed
  exact absurd placed.file (by decide)

end Context

end LeveledLogging
