import LeveledLogging.Record
import LeveledLogging.Proofs.Digits
import LeveledLogging.Entries
import Mathlib.Algebra.GroupWithZero.Nat
/-! Where a record ends its line. Line ends in a message are replaced and those in a value are spelled
out, but the segments of the name, the scope, the keys and the file are written as they are. A record
is one line, or two if its place is shown, exactly when none of these holds a line end
(`oneRecordExactlyWhenUnbroken`). -/
namespace LeveledLogging

namespace Text

def lineEnds (s : String) : Nat := s.toList.count '\n'

theorem lineEndsNone {s : String} : lineEnds s = 0 ↔ '\n' ∉ s.toList := List.count_eq_zero

theorem lineEndsOfList {cs : List Char} (free : '\n' ∉ cs) : lineEnds (String.ofList cs) = 0 := by
  rw [lineEndsNone, String.toList_ofList]
  exact free

@[simp] theorem lineEndsAppend (a b : String) : lineEnds (a ++ b) = lineEnds a + lineEnds b := by
  simp only [lineEnds, String.toList_append, List.count_append]

theorem digitVisible (n : Nat) : Nat.digitChar n ≠ '\n' := by
  grind [Nat.digitChar]

theorem digitsVisible {base : Nat} (large : 1 < base) (n : Nat) : '\n' ∉ Nat.toDigits base n :=
  digitsWithout large digitVisible n

@[simp] theorem lineEndsInteger (n : Int) : lineEnds (integer n) = 0 := by
  have digits := lineEndsOfList (digitsVisible (by decide : 1 < 10) n.natAbs)
  unfold integer
  split
  · rw [lineEndsAppend, digits]
    rfl
  · exact digits

theorem escapeVisible (c : Char) : '\n' ∉ escapeChar c := by
  by_cases isEnd : c = '\n'
  · rw [isEnd]
    decide
  · have digits : '\n' ∉ hexDigits c.toNat := digitsVisible (by decide) c.toNat
    grind [escapeChar]

@[simp] theorem lineEndsQuote (s : String) : lineEnds (quote s) = 0 := by
  have inside : '\n' ∉ s.toList.flatMap escapeChar := by
    intro found
    obtain ⟨c, _, here⟩ := List.mem_flatMap.mp found
    exact escapeVisible c here
  refine lineEndsOfList ?_
  simpa [quoteChars] using inside

theorem countJoinChars {c separator : Char} (other : separator ≠ c) (pieces : List (List Char)) :
    (joinChars separator pieces).count c = (pieces.map (List.count c)).sum := by
  induction pieces with
  | nil => rfl
  | cons piece rest ih =>
    cases rest with
    | nil => simp [joinChars]
    | cons next more =>
      rw [joinCharsCons (by simp), List.count_append, List.count_cons_of_ne other, ih]
      rfl

theorem lineEndsJoin {separator : Char} (other : separator ≠ '\n') (pieces : List String) :
    lineEnds (join separator pieces) = (pieces.map lineEnds).sum := by
  rw [lineEnds, join, String.toList_ofList, countJoinChars other, List.map_map]
  rfl

end Text

open Text

namespace Moment

theorem paddedVisible (width n : Nat) : '\n' ∉ padded width n := by
  have digits := digitsVisible (by decide : 1 < 10) n
  simp [padded, digits]

theorem yearVisible (year : Int) : '\n' ∉ yearText year := by
  unfold yearText
  split
  · exact paddedVisible _ _
  · split <;> simp [paddedVisible]

@[simp] theorem lineEndsLocalText (t : Moment) : lineEnds t.localText = 0 := by
  refine lineEndsOfList ?_
  simp [dateText, clockText, yearVisible, paddedVisible]

end Moment

namespace Record

@[simp] theorem lineEndsAligned (width : Nat) (s : String) :
    lineEnds (rightAligned width s) = lineEnds s := by
  have blanks : lineEnds (String.ofList (List.replicate (width - s.toList.length) ' ')) = 0 :=
    lineEndsOfList (by simp)
  rw [rightAligned, lineEndsAppend, blanks, Nat.zero_add]

@[simp] theorem lineEndsTag (level : Level) : lineEnds level.tag = 0 := by cases level <;> rfl

@[simp] theorem lineEndsSpaced (s : String) : lineEnds (spaced s) = lineEnds s := by
  have blank : lineEnds " " = 0 := rfl
  unfold spaced
  split
  · rename_i nothing
    rw [nothing]
  · rw [lineEndsAppend, blank, Nat.zero_add]

@[simp] theorem lineEndsOneLine (s : String) : lineEnds (oneLine s) = 0 := by
  refine lineEndsOfList ?_
  simp only [List.mem_map, not_exists, not_and]
  intro c _
  split
  · decide
  · assumption

theorem lineEndsLabel (record : Record) (name : List String) :
    lineEnds (record.label name) = (name.map lineEnds).sum + lineEnds record.scope := by
  have marks : lineEnds "[" = 0 ∧ lineEnds "]" = 0 ∧ lineEnds ":" = 0 ∧ lineEnds "" = 0 := by decide
  have named : lineEnds (LoggerName.dots name) = (name.map lineEnds).sum := lineEndsJoin (by decide) name
  unfold label
  split
  · rename_i nothing
    obtain ⟨rfl, nowhere⟩ := nothing
    rw [nowhere]
    rfl
  · split
    · rename_i nowhere
      simp only [lineEndsAppend, named, marks, nowhere, Nat.zero_add]
    · simp only [lineEndsAppend, named, marks, Nat.zero_add, Nat.add_zero]

theorem lineEndsPair (pair : String × String) : lineEnds (pairText pair) = lineEnds pair.1 := by
  have sign : lineEnds "=" = 0 := rfl
  simp only [pairText, lineEndsAppend, lineEndsQuote, sign, Nat.add_zero]

theorem lineEndsValues (record : Record) :
    lineEnds record.valuesText = (record.values.map fun pair => lineEnds pair.1).sum := by
  have braces : lineEnds "\x7b" = 0 ∧ lineEnds "\x7d" = 0 := by decide
  unfold valuesText bracedText
  split
  · rename_i nothing
    rw [nothing]
    rfl
  · simp only [lineEndsAppend, braces, lineEndsJoin (by decide : ' ' ≠ '\n'), List.map_map,
      Nat.zero_add, Nat.add_zero, Function.comp_def, lineEndsPair]

theorem lineEndsOrigin (record : Record) : lineEnds record.origin = lineEnds record.file := by
  have colon : lineEnds ":" = 0 := rfl
  unfold origin
  split
  · rename_i unknown
    rw [unknown]
  · split
    · simp only [lineEndsAppend, lineEndsInteger, colon, Nat.add_zero]
    · rfl

theorem originEmpty {record : Record} : record.origin = "" ↔ record.file = "" := by
  unfold origin
  split
  · simp_all
  · split <;> simp_all

def lineHead (record : Record) (now : Moment) (name : List String) (level : Level) : String :=
  now.localText ++ rightAligned 6 level.tag ++ spaced (record.label name) ++
    spaced (oneLine record.text) ++ spaced record.valuesText

theorem logLineHead (record : Record) (now : Moment) (name : List String) (level : Level)
    (trace : Bool) :
    record.logLine now name level trace = record.lineHead now name level ++
      (if trace ∧ record.origin ≠ "" then "\n└─" ++ record.origin else "") ++ "\n" := rfl

theorem lineEndsHead (record : Record) (now : Moment) (name : List String) (level : Level) :
    lineEnds (record.lineHead now name level) =
      (name.map lineEnds).sum + lineEnds record.scope +
        (record.values.map fun pair => lineEnds pair.1).sum := by
  simp only [lineHead, lineEndsAppend, Moment.lineEndsLocalText, lineEndsAligned, lineEndsTag,
    lineEndsSpaced, lineEndsOneLine, lineEndsLabel, lineEndsValues, Nat.zero_add, Nat.add_zero]

def placedKeys : List String := [messageKey, scopeKey, fileKey, lineKey]

def lastText (pairs : List (String × Value)) (key : String) : String :=
  ((lastOf pairs key).map Value.display).getD ""

theorem slotSetAll (slot : Record → String) {key : String}
    (step : ∀ (record : Record) k v, slot (record.set k v) = if k = key then v.display else slot record)
    (record : Record) (pairs : List (String × Value)) :
    slot (record.setAll pairs) = ((lastOf pairs key).map Value.display).getD (slot record) := by
  induction pairs generalizing record with
  | nil => rfl
  | cons pair rest ih =>
    change slot ((record.set pair.1 pair.2).setAll rest) = _
    rw [ih, step, lastOf]
    cases lastOf rest key with
    | some value => rfl
    | none => by_cases here : pair.1 = key <;> simp [here]

theorem setParts (record : Record) (key : String) (value : Value) :
    (record.set key value).scope = (if key = scopeKey then value.display else record.scope) ∧
      (record.set key value).file = (if key = fileKey then value.display else record.file) ∧
      (record.set key value).values =
        (if key ∈ placedKeys then record.values else record.values ++ [(key, value.display)]) := by
  have distinct : scopeKey ≠ messageKey ∧ fileKey ≠ messageKey ∧ fileKey ≠ scopeKey ∧
      lineKey ≠ scopeKey ∧ lineKey ≠ fileKey := by decide
  unfold set placedKeys
  grind

theorem scopeOfPairs (pairs : List (String × Value)) :
    (ofPairs pairs).scope = lastText pairs scopeKey :=
  slotSetAll scope (fun record k v => (setParts record k v).1) empty pairs

theorem fileOfPairs (pairs : List (String × Value)) :
    (ofPairs pairs).file = lastText pairs fileKey :=
  slotSetAll file (fun record k v => (setParts record k v).2.1) empty pairs

theorem valuesSetAll (record : Record) (pairs : List (String × Value)) :
    (record.setAll pairs).values = record.values ++
      (pairs.filter (·.1 ∉ placedKeys)).map fun pair => (pair.1, pair.2.display) := by
  induction pairs generalizing record with
  | nil => exact (List.append_nil _).symm
  | cons pair rest ih =>
    change ((record.set pair.1 pair.2).setAll rest).values = _
    rw [ih, (setParts record pair.1 pair.2).2.2]
    by_cases placed : pair.1 ∈ placedKeys <;> simp [placed]

theorem valuesOfPairs (pairs : List (String × Value)) :
    (ofPairs pairs).values =
      (pairs.filter (·.1 ∉ placedKeys)).map fun pair => (pair.1, pair.2.display) :=
  valuesSetAll empty pairs

/- Nothing that is written as it is holds a line end. The file counts only where it is shown. -/
structure Unbroken (name : LoggerName) (pairs : List (String × Value)) (shown : Bool) : Prop where
  name : ∀ segment ∈ name.segments, '\n' ∉ segment.toList
  scope : '\n' ∉ (lastText pairs scopeKey).toList
  keys : ∀ pair ∈ pairs, pair.1 ∉ placedKeys → '\n' ∉ pair.1.toList
  file : shown = true → '\n' ∉ (lastText pairs fileKey).toList

/- A text of one line, or of two lines if a place is shown, which the mark of the place opens. -/
inductive OneRecord : Bool → String → Prop where
  | line {first : String} (whole : '\n' ∉ first.toList) : OneRecord false (first ++ "\n")
  | located {first place : String} (whole : '\n' ∉ first.toList) (inside : '\n' ∉ place.toList) :
      OneRecord true (first ++ "\n└─" ++ place ++ "\n")

theorem OneRecord.lineEnds {shown : Bool} {s : String} (record : OneRecord shown s) :
    Text.lineEnds s = if shown = true then 2 else 1 := by
  have marks : Text.lineEnds "\n" = 1 ∧ Text.lineEnds "\n└─" = 1 := by decide
  cases record with
  | line whole => simp [marks, lineEndsNone.mpr whole]
  | located whole inside => simp [marks, lineEndsNone.mpr whole, lineEndsNone.mpr inside]

def showsPlace (pairs : List (String × Value)) (trace : Bool) : Bool :=
  trace && decide (lastText pairs fileKey ≠ "")

theorem logLineParts (pairs : List (String × Value)) (now : Moment) (name : List String)
    (level : Level) (trace : Bool) :
    (ofPairs pairs).logLine now name level trace = (ofPairs pairs).lineHead now name level ++
      (if showsPlace pairs trace = true then "\n└─" ++ (ofPairs pairs).origin else "") ++ "\n" := by
  have shown : (trace = true ∧ (ofPairs pairs).origin ≠ "") = (showsPlace pairs trace = true) := by
    simp [showsPlace, originEmpty, fileOfPairs]
  simp only [logLineHead, shown]

theorem lineEndsExact (shown : Bool) (head place : String) :
    Text.lineEnds (head ++ (if shown = true then "\n└─" ++ place else "") ++ "\n") =
        (if shown = true then 2 else 1) ↔
      Text.lineEnds head = 0 ∧ (shown = true → Text.lineEnds place = 0) := by
  have marks : Text.lineEnds "\n" = 1 ∧ Text.lineEnds "\n└─" = 1 ∧ Text.lineEnds "" = 0 := by decide
  cases shown with
  | false => simp [marks]
  | true =>
    simp only [reduceIte, lineEndsAppend, marks, true_implies]
    omega

theorem oneRecordOfWhole {shown : Bool} {head place : String} (whole : Text.lineEnds head = 0)
    (inside : shown = true → Text.lineEnds place = 0) :
    OneRecord shown (head ++ (if shown = true then "\n└─" ++ place else "") ++ "\n") := by
  cases shown with
  | false =>
    rw [if_neg (by decide), String.append_empty]
    exact .line (lineEndsNone.mp whole)
  | true =>
    rw [if_pos rfl, ← String.append_assoc]
    exact .located (lineEndsNone.mp whole) (lineEndsNone.mp (inside rfl))

theorem unbrokenIff {name : LoggerName} {pairs : List (String × Value)} {shown : Bool}
    (now : Moment) (level : Level) :
    Unbroken name pairs shown ↔
      lineEnds ((ofPairs pairs).lineHead now name.segments level) = 0 ∧
        (shown = true → lineEnds (ofPairs pairs).origin = 0) := by
  rw [lineEndsHead, lineEndsOrigin, scopeOfPairs, fileOfPairs, valuesOfPairs]
  simp only [Nat.add_eq_zero_iff, List.sum_eq_zero_iff_forall_eq_nat, List.forall_mem_map,
    lineEndsNone, List.mem_filter, decide_eq_true_eq, and_imp]
  constructor
  · rintro ⟨inName, inScope, inKeys, inFile⟩
    exact ⟨⟨⟨inName, inScope⟩, inKeys⟩, inFile⟩
  · rintro ⟨⟨⟨inName, inScope⟩, inKeys⟩, inFile⟩
    exact ⟨inName, inScope, inKeys, inFile⟩

theorem oneRecordExactlyWhenUnbroken (pairs : List (String × Value)) (name : LoggerName)
    (level : Level) (trace : Bool) (now : Moment) :
    let line := (ofPairs pairs).logLine now name.segments level trace
    let shown := showsPlace pairs trace
    (OneRecord shown line ↔ Unbroken name pairs shown) ∧
      (Text.lineEnds line = (if shown = true then 2 else 1) ↔ Unbroken name pairs shown) := by
  intro line shown
  have counted : Text.lineEnds line = (if shown = true then 2 else 1) ↔ Unbroken name pairs shown := by
    rw [unbrokenIff now level, ← lineEndsExact, ← logLineParts]
  refine ⟨⟨fun record => counted.mp record.lineEnds, ?_⟩, counted⟩
  intro unbroken
  obtain ⟨whole, inside⟩ := (unbrokenIff now level).mp unbroken
  have record := oneRecordOfWhole whole inside
  rwa [← logLineParts] at record

theorem scopeBreaksRecord :
    let pairs := [(messageKey, Value.text "hello"), (scopeKey, Value.text "a\nb")]
    let name : LoggerName := ⟨["svc"], by decide⟩
    let line := (ofPairs pairs).logLine ⟨0, 0, 0⟩ name.segments .info false
    showsPlace pairs false = false ∧ Text.lineEnds line = 2 ∧ ¬ OneRecord false line := by
  intro pairs name line
  have ends : Text.lineEnds line = 2 := by decide
  refine ⟨rfl, ends, ?_⟩
  intro record
  rw [record.lineEnds] at ends
  contradiction

end Record

end LeveledLogging
