import LeveledLogging.Proofs.Delivery
import LeveledLogging.Proofs.Lines
/-! What comes out of a logger under wrappers. However many there are, the backend is asked for one
message, a call deeper for every wrapper; the fields of the wrappers are set on it from the inside out,
then the place of the call, the fields of the call and the text; and it is sent once. Its record has the
last of what was set for each place, and all other values in the order in which they were set
(`wrappedDelivers`). -/
namespace LeveledLogging

namespace Logger

def wrapped (name : LoggerName) (wrappers : List Fields) : Logger :=
  wrappers.foldl wrapping (named name)

theorem wrappingAll (inner : Logger) (wrappers : List Fields) :
    (wrappers.foldl wrapping inner).name? = inner.name? ∧
      (wrappers.foldl wrapping inner).layers = inner.layers + wrappers.length ∧
      (wrappers.foldl wrapping inner).fixed = inner.fixed ++ wrappers.flatMap Fields.pairs := by
  induction wrappers generalizing inner with
  | nil => exact ⟨rfl, rfl, (List.append_nil _).symm⟩
  | cons fields rest ih =>
    obtain ⟨name, depth, sets⟩ := ih (wrapping inner fields)
    refine ⟨name, ?_, ?_⟩
    · rw [List.foldl_cons, depth, layers, List.length_cons]
      omega
    · rw [List.foldl_cons, sets, fixed, List.flatMap_cons, List.append_assoc]

theorem requestWrapped (name : LoggerName) (wrappers : List Fields) (level : Level) (depth : Nat)
    (pairs : List (String × Value)) :
    (wrapped name wrappers).request level depth pairs =
      some ⟨name.segments, level, depth + wrappers.length + 1,
        wrappers.flatMap Fields.pairs ++ pairs⟩ := by
  obtain ⟨bound, deep, sets⟩ := wrappingAll (named name) wrappers
  rw [wrapped, requestNamed bound, deep, sets, layers, fixed, Nat.zero_add, List.nil_append]

example : (wrapped .root [.ofPairs [("a", .text "1")],
    .ofPairs [("b", .text "2"), ("a", .text "3")]]).request .error 1 [("c", .text "4")] =
      some ⟨[], .error, 4, [("a", .text "1"), ("b", .text "2"), ("a", .text "3"),
        ("c", .text "4")]⟩ := rfl

end Logger

namespace Record

theorem textOfPairs (pairs : List (String × Value)) :
    (ofPairs pairs).text = lastText pairs messageKey := by
  refine slotSetAll text ?_ empty pairs
  intro record k v
  unfold set
  split
  · rfl
  · repeat' split
    all_goals rfl

theorem lineSet (record : Record) (key : String) (value : Value) :
    (record.set key value).line = if key = lineKey then value.integer? else record.line := by
  have distinct : lineKey ≠ messageKey ∧ lineKey ≠ scopeKey ∧ lineKey ≠ fileKey := by decide
  unfold set
  grind

theorem lineSetAll (record : Record) (pairs : List (String × Value)) :
    (record.setAll pairs).line =
      ((lastOf pairs lineKey).map Value.integer?).getD record.line := by
  induction pairs generalizing record with
  | nil => rfl
  | cons pair rest ih =>
    change ((record.set pair.1 pair.2).setAll rest).line = _
    rw [ih, lineSet, lastOf]
    cases lastOf rest lineKey with
    | some value => rfl
    | none => by_cases here : pair.1 = lineKey <;> simp [here]

structure Holds (record : Record) (pairs : List (String × Value)) : Prop where
  scope : record.scope = lastText pairs scopeKey
  text : record.text = lastText pairs messageKey
  file : record.file = lastText pairs fileKey
  line : record.line = (lastOf pairs lineKey).bind Value.integer?
  values : record.values =
    (pairs.filter (·.1 ∉ placedKeys)).map fun pair => (pair.1, pair.2.display)

theorem holdsPairs (pairs : List (String × Value)) : (ofPairs pairs).Holds pairs where
  scope := scopeOfPairs pairs
  text := textOfPairs pairs
  file := fileOfPairs pairs
  line := by
    rw [ofPairs, lineSetAll]
    cases lastOf pairs lineKey <;> rfl
  values := valuesOfPairs pairs

end Record

namespace Context

def deliver (context : Context) (now : Moment) (request : Request) (tell : Context → Context) :
    Context :=
  match context.newMessage request.name request.level request.depth with
  | (some _, asked) =>
    (tell asked).send now ⟨request.name, request.level, context.trace, request.sets⟩
  | (none, asked) => asked

theorem newMessageBlank {context asked : Context} {name : List String} {level : Level} {depth : Nat}
    {message : Message} (made : context.newMessage name level depth = (some message, asked)) :
    message = ⟨name, level, context.trace, []⟩ := by
  unfold newMessage at made
  unfold trace
  split at made
  all_goals
    split at made
    · cases made
      simp [*]
    · cases made

theorem sendNewDelivers (context : Context) (now : Moment) {logger : Logger} {level : Level}
    {depth : Nat} {request : Request} (asks : logger.request level depth [] = some request)
    (tell : Context → Context) (pairs : List (String × Value)) :
    context.sendNew now logger level depth tell pairs =
      context.deliver now { request with sets := request.sets ++ pairs } tell := by
  have blank : Fields.empty.pairs = [] := rfl
  unfold sendNew newMessageOf deliver
  rw [blank, asks]
  dsimp only
  rw [ask]
  cases answer : context.newMessage request.name request.level request.depth with
  | mk made asked =>
    cases made with
    | none => rfl
    | some message =>
      cases newMessageBlank answer
      rfl

theorem sendNewWrapped (context : Context) (now : Moment) (name : LoggerName)
    (wrappers : List Fields) (level : Level) (depth : Nat) (tell : Context → Context)
    (pairs : List (String × Value)) :
    context.sendNew now (.wrapped name wrappers) level depth tell pairs =
      context.deliver now ⟨name.segments, level, depth + wrappers.length + 1,
        wrappers.flatMap Fields.pairs ++ pairs⟩ tell := by
  rw [sendNewDelivers context now (Logger.requestWrapped name wrappers level depth []),
    List.append_nil]

theorem deliverRecorded {context : Context} {refusing : Bool}
    (records : context.backend.output = .calls refusing) (now : Moment) {request : Request}
    (allowed : context.allows request.name request.level = true) {tell : Context → Context}
    (stays : ∀ c, (tell c).backend.output = c.backend.output) :
    context.deliver now request tell =
      (tell (context.emit
        (.called (.newMessage request.name request.level request.depth)))).emit
          (.called (.send request.sets)) := by
  have still := (stays (context.emit
    (.called (.newMessage request.name request.level request.depth)))).trans records
  unfold deliver newMessage
  simp only [records, allowed, if_true]
  unfold send
  rw [still]

theorem deliverAccepted {context : Context} (sound : context.Sound) (now : Moment)
    {request : Request} (loggable : request.level ≠ .off)
    (allowed : request.level ≤ context.level request.name) (tell : Context → Context) :
    context.deliver now request tell =
      (tell context).send now ⟨request.name, request.level, context.trace, request.sets⟩ := by
  unfold deliver
  rw [newMessageSound sound, if_pos (And.intro loggable allowed)]

theorem wrappedDelivers (context : Context) (now : Moment) (site : CallSite) (name : LoggerName)
    (wrappers : List Fields) (level : Level) (depth : Nat) (text : String) (fields : Fields)
    (formatting : Context → Context) :
    let logger := Logger.wrapped name wrappers
    let front := wrappers.flatMap Fields.pairs ++
      [(fileKey, .text site.file), (lineKey, .integer (Int64.ofNat site.line))]
    let plain := front ++ [(messageKey, .text text)]
    let whole := front ++ fields.pairs ++ [(messageKey, .text text)]
    (context.log now site logger level depth text fields = context.deliver now
      ⟨name.segments, level, depth + wrappers.length + 2, whole⟩ id) ∧
    (context.logFormatted now site logger level depth formatting text = context.deliver now
      ⟨name.segments, level, depth + wrappers.length + 2, plain⟩ formatting) ∧
    (context.say now site logger level text = context.deliver now
      ⟨name.segments, level, 1 + wrappers.length + 2, plain⟩ id) ∧
    (context.sayFormatted now site logger level text formatting = context.deliver now
      ⟨name.segments, level, 1 + wrappers.length + 2, plain⟩ formatting) ∧
    (context.logHere now site logger level text formatting = context.deliver now
      ⟨name.segments, level, wrappers.length + 1, plain⟩ formatting) ∧
    (∀ refusing request tell, context.backend.output = .calls refusing →
      context.allows request.name request.level = true →
      (∀ c, (tell c).backend.output = c.backend.output) →
      context.deliver now request tell =
        (tell (context.emit
          (.called (.newMessage request.name request.level request.depth)))).emit
            (.called (.send request.sets))) ∧
    (∀ request tell, context.Sound → request.level ≠ .off →
      request.level ≤ context.level request.name →
      context.deliver now request tell =
        (tell context).send now ⟨request.name, request.level, context.trace, request.sets⟩) ∧
    ∀ message : Message, message.record.Holds message.sets := by
  intro logger front plain whole
  have delivers : ∀ {depth total pairs sets} (tell : Context → Context),
      depth + wrappers.length + 1 = total → wrappers.flatMap Fields.pairs ++ pairs = sets →
      context.sendNew now logger level depth tell pairs =
        context.deliver now ⟨name.segments, level, total, sets⟩ tell := by
    rintro depth _ pairs _ tell rfl rfl
    exact sendNewWrapped context now name wrappers level depth tell pairs
  have behind : ∀ pairs, wrappers.flatMap Fields.pairs ++ (site.pairs ++ pairs) = front ++ pairs :=
    fun pairs => (List.append_assoc _ _ _).symm
  refine ⟨?_, ?_, ?_, ?_, ?_, ?_, ?_, ?_⟩
  · refine delivers id (by omega) ?_
    rw [List.append_assoc, behind, ← List.append_assoc]
  · exact delivers formatting (by omega) (behind _)
  · exact delivers id (by omega) (behind _)
  · exact delivers formatting (by omega) (behind _)
  · exact delivers formatting (by omega) (behind _)
  · intro refusing request tell records allowed stays
    exact deliverRecorded records now allowed stays
  · intro request tell sound loggable allowed
    exact deliverAccepted sound now loggable allowed tell
  · intro message
    exact Record.holdsPairs message.sets

theorem wrappedSaid :
    let recording : Context := ⟨⟨.set [] .info .empty, .calls false⟩, .start ⟨[], []⟩⟩
    let printing : Context := ⟨⟨.set [] .info .empty, .lines .errorStream false⟩, .start ⟨[], []⟩⟩
    let wrappers := [Fields.ofPairs [("k", .text "1")], Fields.ofPairs [("k", .text "2")]]
    let logger := Logger.wrapped .root wrappers
    let sets := [("k", .text "1"), ("k", .text "2"), (fileKey, .text "m"), (lineKey, .integer 7),
      (messageKey, .text "hi")]
    recording.backend.output = .calls false ∧ recording.allows [] .info = true ∧
    recording.say ⟨0, 0, 0⟩ ⟨"m", 7⟩ logger .info "hi" =
      (recording.emit (.called (.newMessage [] .info 5))).emit (.called (.send sets)) ∧
    printing.Sound ∧ Level.info ≤ printing.level [] ∧
    printing.say ⟨0, 0, 0⟩ ⟨"m", 7⟩ logger .info "hi" =
      printing.send ⟨0, 0, 0⟩ ⟨[], .info, false, sets⟩ := by
  intro recording printing wrappers logger sets
  have allows : recording.allows [] .info = true := by decide
  have sound : printing.Sound := trivial
  have allowed : Level.info ≤ printing.level [] := by decide
  have delivers := fun context : Context => wrappedDelivers context ⟨0, 0, 0⟩ ⟨"m", 7⟩ .root wrappers
    .info 0 "hi" .empty id
  obtain ⟨_, _, asked, _, _, records, _⟩ := delivers recording
  obtain ⟨_, _, wanted, _, _, _, sends, _⟩ := delivers printing
  exact ⟨rfl, allows, asked.trans (records false _ id rfl allows fun _ => rfl), sound, allowed,
    wanted.trans (sends _ id sound (by decide) allowed)⟩

end Context

end LeveledLogging
