import LeveledLogging.Proofs.Blanks
import LeveledLogging.Proofs.Digits
import LeveledLogging.Proofs.Emission
import LeveledLogging.Proofs.Unambiguity
/-! Fields that are given on a command line as a key, an equals sign and a value. The first sign divides
them, so that the value may hold others. A value is read as what it was if nothing else has its text
(`readValueShown`); keys and values for which that is so come back, and no others do
(`fieldsReadBack`). -/
namespace LeveledLogging.Command

open Text

def assignment (pair : String × Value) : String := pair.1 ++ "=" ++ pair.2.display

structure Assignable (key : String) : Prop where
  visible : key ≠ ""
  signless : '=' ∉ key.toList
  bare : Bare key.toList

inductive Literal (s : String) : Prop where
  | integer (n : Int64) (numeral : Numeral s.toList n.toInt)
  | boolean (b : Bool) (word : s = boolWord b)

/- A value that is told from all others by its text. -/
def Told : Value → Prop
  | .integer _ | .boolean _ => True
  | .text s => ¬ Literal s
  | .float _ | .bytes _ => False

theorem assignableIff {key : String} :
    Assignable key ↔ key ≠ "" ∧ '=' ∉ key.toList ∧ trim key = key := by
  constructor
  · intro ⟨visible, signless, bare⟩
    exact ⟨visible, signless, trimBare bare⟩
  · intro ⟨visible, signless, same⟩
    exact ⟨visible, signless, same ▸ bareTrim key⟩

instance (key : String) : Decidable (Assignable key) := decidable_of_iff _ assignableIff.symm

theorem readValueInteger (n : Int64) : readValue (integer n.toInt) = .integer n := by
  rw [readValue, readInt64Written]

theorem readValueWord (b : Bool) : readValue (boolWord b) = .boolean b := by
  cases b <;> decide

theorem readValueText {s : String} : readValue s = .text s ↔ ¬ Literal s := by
  unfold readValue
  cases whole : readInt64 s with
  | some n =>
    have literal : Literal s := .integer n (readInt64Iff.mp whole)
    simp [literal]
  | none =>
    have other : ∀ n : Int64, ¬ Numeral s.toList n.toInt := by
      intro n numeral
      rw [readInt64Iff.mpr numeral] at whole
      cases whole
    have words : Literal s ↔ s = "true" ∨ s = "false" := by
      constructor
      · intro literal
        cases literal with
        | integer n numeral => exact absurd numeral (other n)
        | boolean b word => cases b <;> simp [word, boolWord]
      · rintro (rfl | rfl)
        · exact .boolean true rfl
        · exact .boolean false rfl
    rw [words]
    by_cases yes : s = "true"
    · simp [yes]
    · by_cases no : s = "false"
      · simp [no]
      · simp [yes, no]

theorem readValueKinds (s : String) :
    (∃ n, readValue s = .integer n) ∨ (∃ b, readValue s = .boolean b) ∨ readValue s = .text s := by
  unfold readValue
  cases readInt64 s with
  | some n => exact .inl ⟨n, rfl⟩
  | none =>
    dsimp only
    split
    · exact .inr (.inl ⟨true, rfl⟩)
    · split
      · exact .inr (.inl ⟨false, rfl⟩)
      · exact .inr (.inr rfl)

theorem readValueShown {value : Value} : readValue value.display = value ↔ Told value := by
  cases value with
  | integer n => exact iff_of_true (readValueInteger n) trivial
  | boolean b => exact iff_of_true (readValueWord b) trivial
  | text s => exact readValueText
  | float x =>
    refine iff_of_false ?_ id
    rcases readValueKinds (Value.float x).display with ⟨_, read⟩ | ⟨_, read⟩ | read <;> simp [read]
  | bytes bs =>
    refine iff_of_false ?_ id
    rcases readValueKinds (Value.bytes bs).display with ⟨_, read⟩ | ⟨_, read⟩ | read <;> simp [read]

instance (value : Value) : Decidable (Told value) := decidable_of_iff _ readValueShown

theorem cutAssignment {key : String} (signless : '=' ∉ key.toList) (value : Value) :
    cut '=' (assignment (key, value)) = some (key, value.display) := by
  have chars : (assignment (key, value)).toList = key.toList ++ '=' :: value.display.toList := by
    simp [assignment]
  rw [cut, chars, cutCharsFirst signless]
  simp

theorem readFieldAssigned {key : String} {value : Value} :
    readField (assignment (key, value)) = .ok (key, value) ↔ Assignable key ∧ Told value := by
  constructor
  · intro read
    have signless : '=' ∉ key.toList := Record.keySignless read
    unfold readField at read
    rw [cutAssignment signless] at read
    dsimp only at read
    split at read
    · cases read
    · rename_i visible
      obtain ⟨trimmed, same⟩ := Prod.mk.inj (Except.ok.inj read)
      rw [trimmed] at visible
      exact ⟨assignableIff.mpr ⟨visible, signless, trimmed⟩, readValueShown.mp same⟩
  · rintro ⟨assignable, told⟩
    unfold readField
    rw [cutAssignment assignable.signless]
    simp only [trimBare assignable.bare, if_neg assignable.visible, readValueShown.mpr told]

theorem readAssigned {pairs : List (String × Value)} :
    (pairs.map assignment).mapM readField = .ok pairs ↔
      ∀ pair ∈ pairs, Assignable pair.1 ∧ Told pair.2 := by
  rw [mapMOk, List.forall₂_map_left_iff, List.forall₂_same]
  exact forall₂_congr fun _ _ => readFieldAssigned

theorem sendAttached {fields : List String} {pairs : List (String × Value)}
    (read : fields.mapM readField = .ok pairs) (s : Surroundings) (options : Options)
    (settings : Settings) (subscriber : Subscriber) (files : FileSystem) (name : String) (level : Level)
    (text : String) (kind : BackendKind) :
    (∃ failure outputs,
      send s options settings subscriber files name level text [] kind = (.error failure, outputs) ∧
      send s options settings subscriber files name level text fields kind =
        (.error failure, outputs)) ∨
    ∃ context parsed, outputContext s options settings subscriber kind files = (.ok (), context) ∧
      LoggerName.read name = .ok parsed ∧
      send s options settings subscriber files name level text fields kind =
        let refused := if level ≤ context.level parsed.segments then [] else [.filtered name level]
        let outputs := tell s subscriber context.outputs refused
        (.ok (), writeEvents s subscriber (Context.log { context with outputs } s.now s.site
          (.named parsed) level 0 text (Fields.ofPairs pairs)).outputs) := by
  by_cases loggable : level = .off
  · subst loggable
    exact .inl ⟨_, _, rfl, rfl⟩
  · have none : ([] : List String).mapM readField = .ok [] := rfl
    have bare := sendComposed s options settings subscriber files name text kind loggable none
    have full := sendComposed s options settings subscriber files name text kind loggable read
    rw [bare, full]
    obtain ⟨r, context⟩ := outputContext s options settings subscriber kind files
    cases r with
    | error failure => exact .inl ⟨_, _, rfl, rfl⟩
    | ok _ =>
      cases LoggerName.read name with
      | error e => exact .inl ⟨_, _, rfl, rfl⟩
      | ok parsed => exact .inr ⟨context, parsed, rfl, rfl, rfl⟩

theorem fieldsReadBack :
    (∀ key value, readField (assignment (key, value)) = .ok (key, value) ↔
      Assignable key ∧ Told value) ∧
    ∀ pairs : List (String × Value), (∀ pair ∈ pairs, Assignable pair.1 ∧ Told pair.2) →
      let attached := Fields.ofPairs pairs
      (pairs.map assignment).mapM readField = .ok pairs ∧
      attached.keys.Nodup ∧ attached.keys = (pairs.map Prod.fst).eraseDups ∧
      (∀ key, attached.get? key = lastOf pairs key) ∧
      ∀ s options settings subscriber files name level text kind,
        (∃ failure outputs,
          send s options settings subscriber files name level text [] kind =
            (.error failure, outputs) ∧
          send s options settings subscriber files name level text (pairs.map assignment) kind =
            (.error failure, outputs)) ∨
        ∃ context parsed, outputContext s options settings subscriber kind files = (.ok (), context) ∧
          LoggerName.read name = .ok parsed ∧
          send s options settings subscriber files name level text (pairs.map assignment) kind =
            let refused := if level ≤ context.level parsed.segments then [] else [.filtered name level]
            let outputs := tell s subscriber context.outputs refused
            (.ok (), writeEvents s subscriber (Context.log { context with outputs } s.now s.site
              (.named parsed) level 0 text attached).outputs) := by
  refine ⟨fun _ _ => readFieldAssigned, ?_⟩
  intro pairs assigned attached
  have read := readAssigned.mpr assigned
  exact ⟨read, attached.distinct, Fields.keysOfPairs pairs, Fields.getOfPairs pairs,
    sendAttached read⟩

theorem leastNumberReadBack :
    let pairs := [("n", Value.integer Int64.minValue), ("a", .text "x=y="), ("b c", .text "1e3"),
      ("a", .boolean false)]
    (∀ pair ∈ pairs, Assignable pair.1 ∧ Told pair.2) ∧
      pairs.map assignment = ["n=-9223372036854775808", "a=x=y=", "b c=1e3", "a=false"] ∧
      (pairs.map assignment).mapM readField = .ok pairs ∧
      (Fields.ofPairs pairs).keys = ["n", "a", "b c"] ∧
      (Fields.ofPairs pairs).get? "a" = some (.boolean false) := by
  intro pairs
  have assigned : ∀ pair ∈ pairs, Assignable pair.1 ∧ Told pair.2 := by decide
  obtain ⟨read, _, keys, values, _⟩ := fieldsReadBack.2 pairs assigned
  exact ⟨assigned, by decide, read, keys.trans (by decide), (values "a").trans (by decide)⟩

end LeveledLogging.Command
