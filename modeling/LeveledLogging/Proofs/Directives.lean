import LeveledLogging.Proofs.Concatenation
import LeveledLogging.Proofs.Names
import LeveledLogging.Proofs.Spellings
/-! Level directives as they can be written. A directive is a name, an equals sign and a word for a
level, with blanks around the name and the word, or such a word alone for the root (`Writes`); a list of
texts writes entries if its members write them in turn, except for those of blanks (`Written`). What is
read from texts with commas between them is what they write (`readAllIff`), so that a table comes back
whatever the order of its entries and the way of writing them (`writtenDirectivesRead`). -/
namespace LeveledLogging

namespace Directives

def parts (directive : String) : String × String :=
  match Text.cut '=' directive with
  | some (name, level) => (Text.trim name, level)
  | none => ("", directive)

theorem readOneIff {directive key : String} {level : Level} :
    readOne directive = .ok (key, level) ↔ (parts directive).1 = key ∧
      (∃ name : LoggerName, name.dotted = key) ∧ Level.read (parts directive).2 = .ok level := by
  constructor
  · intro done
    obtain ⟨name, named, done⟩ := bindOk.mp done
    obtain ⟨own, read, same⟩ := returnOk.mp done
    cases same
    exact ⟨rfl, ⟨name, LoggerName.readIff.mp (explainOk.mp named)⟩, explainOk.mp read⟩
  · intro ⟨same, ⟨name, dotted⟩, read⟩
    subst same
    have named : explain directive (LoggerName.read (parts directive).1) = .ok name :=
      explainOk.mpr (LoggerName.readIff.mpr dotted)
    exact bindOk.mpr ⟨name, named, returnOk.mpr ⟨level, explainOk.mpr read, rfl⟩⟩

/- Blanks around the two sides of the equals sign are gone when a directive is taken apart, or do not
change the level that is read. -/
theorem partsTrimmed {name : String} (free : '=' ∉ name.toList) (value : String) :
    (parts (Text.trim (name ++ "=" ++ value))).1 = Text.trim name ∧
      Text.trim (parts (Text.trim (name ++ "=" ++ value))).2 = Text.trim value := by
  have sides : (name ++ "=" ++ value).toList = name.toList ++ '=' :: value.toList := by simp
  have free : '=' ∉ Text.trimStartChars name.toList :=
    fun inside => free ((List.dropWhile_sublist Text.isBlank).subset inside)
  have cut : Text.cut '=' (Text.trim (name ++ "=" ++ value)) =
      some (String.ofList (Text.trimStartChars name.toList),
        String.ofList (Text.trimEndChars value.toList)) := by
    rw [Text.cut, Text.trim, sides, Text.trimCharsApart (by decide), String.toList_ofList,
      Text.cutCharsFirst free]
    rfl
  have started : Text.trim (String.ofList (Text.trimStartChars name.toList)) = Text.trim name := by
    rw [Text.trim, String.toList_ofList, Text.trimCharsStart]
    rfl
  have ended : Text.trim (String.ofList (Text.trimEndChars value.toList)) = Text.trim value := by
    rw [Text.trim, String.toList_ofList, Text.trimCharsEnd]
    rfl
  rw [parts, cut]
  exact ⟨started, ended⟩

structure Writable (key : String) : Prop where
  named : ∃ name : LoggerName, name.dotted = key
  whole : ',' ∉ key.toList
  unassigned : '=' ∉ key.toList
  bare : Text.Bare key.toList

theorem rootWritable : Writable "" :=
  ⟨⟨.root, rfl⟩, by decide, by decide, ⟨by simp, by simp⟩⟩

inductive Writes : String → String × Level → Prop where
  | assigned {key word name value : String} {level : Level} (naming : Text.Padded key name)
      (spelled : level.Spells word) (valuing : Text.Padded word value) :
      Writes (name ++ "=" ++ value) (key, level)
  | alone {word text : String} {level : Level} (spelled : level.Spells word)
      (padded : Text.Padded word text) : Writes text ("", level)

theorem Writes.free {text : String} {entry : String × Level} (writes : Writes text entry)
    (writable : Writable entry.1) : ',' ∉ text.toList := by
  have visible : Text.isBlank ',' = false := by decide
  cases writes with
  | assigned naming spelled valuing =>
    have left := naming.without visible writable.whole
    have right := valuing.without visible (spelled.without (by decide))
    simp [left, right]
  | alone spelled padded => exact padded.without visible (spelled.without (by decide))

theorem Writes.read {text : String} {entry : String × Level} (writes : Writes text entry)
    (writable : Writable entry.1) : readOne (Text.trim text) = .ok entry := by
  cases writes with
  | @assigned key word name value level naming spelled valuing =>
    have free := naming.without (by decide) writable.unassigned
    obtain ⟨left, right⟩ := partsTrimmed free value
    rw [Text.trimPadded naming, Text.trimBare writable.bare] at left
    rw [Text.trimPadded valuing, Text.trimBare spelled.bare] at right
    exact readOneIff.mpr ⟨left, writable.named, Level.readTrimmed.mpr (right ▸ spelled)⟩
  | @alone word text level spelled padded =>
    have uncut : Text.cut '=' word = none := Text.cutNone.mpr (spelled.without (by decide))
    have alone : parts word = ("", word) := by rw [parts, uncut]
    rw [Text.trimPadded padded, Text.trimBare spelled.bare, readOneIff, alone]
    exact ⟨rfl, writable.named, Level.readIff.mpr ⟨word, .refl word, spelled⟩⟩

theorem readWrites {text : String} (free : ',' ∉ text.toList) {entry : String × Level}
    (done : readOne (Text.trim text) = .ok entry) : Writes text entry ∧ Writable entry.1 := by
  obtain ⟨key, level⟩ := entry
  obtain ⟨same, named, read⟩ := readOneIff.mp done
  obtain ⟨word, padded, spelled⟩ := Level.readIff.mp read
  have whole := Text.paddedTrim text
  unfold parts at same padded
  cases found : Text.cut '=' (Text.trim text) with
  | none =>
    rw [found] at same padded
    cases same
    exact ⟨.alone spelled (padded.trans whole), rootWritable⟩
  | some sides =>
    obtain ⟨name, value⟩ := sides
    rw [found] at same padded
    cases same
    obtain ⟨joined, unassigned⟩ := Text.cutSome found
    obtain ⟨before, after, blank, blankToo, around⟩ := whole
    have naming : Text.Padded name (String.ofList (before ++ name.toList)) :=
      ⟨before, [], blank, Text.allBlankNil, by simp⟩
    have valuing : Text.Padded value (String.ofList (value.toList ++ after)) :=
      ⟨[], after, Text.allBlankNil, blankToo, by simp⟩
    have shape : text = String.ofList (before ++ name.toList) ++ "=" ++
        String.ofList (value.toList ++ after) := by
      apply String.toList_inj.mp
      rw [around, joined]
      simp
    have trimmed := Text.paddedTrim name
    refine ⟨?_, named, ?_, fun inside => unassigned (trimmed.subset inside), Text.bareTrim name⟩
    · rw [shape]
      exact .assigned (trimmed.trans naming) spelled (padded.trans valuing)
    · intro inside
      apply free
      rw [shape]
      have there := naming.subset (trimmed.subset inside)
      simp only [String.toList_append, List.mem_append]
      exact .inl (.inl there)

inductive Written : List String → List (String × Level) → Prop where
  | nil : Written [] []
  | blank {text rest entries} (blank : Text.AllBlank text.toList) (others : Written rest entries) :
      Written (text :: rest) entries
  | entry {text rest entry entries} (own : Writes text entry) (others : Written rest entries) :
      Written (text :: rest) (entry :: entries)

theorem piecesSingle {text : String} (free : ',' ∉ text.toList) :
    pieces text = if Text.trim text = "" then [] else [Text.trim text] := by
  have single : Text.split ',' text = [text] := by
    rw [Text.split, Text.splitCharsSingle free, List.map_singleton, String.ofList_toList]
  rw [pieces, single]
  by_cases empty : Text.trim text = "" <;> simp [empty]

theorem readOneEmpty (entry : String × Level) : readOne "" ≠ .ok entry := by
  have refused : (readOne "").toOption = none := by decide
  obtain ⟨fault, failed⟩ := toOptionNone.mp refused
  simp [failed]

theorem Written.read {texts : List String} {entries : List (String × Level)}
    (written : Written texts entries) (writable : ∀ entry ∈ entries, Writable entry.1) :
    (texts.flatMap pieces).mapM readOne = .ok entries := by
  induction written with
  | nil => rfl
  | @blank text rest entries blank others ih =>
    have free : ',' ∉ text.toList := fun inside => absurd (blank _ inside) (by decide)
    rw [List.flatMap_cons, piecesSingle free, if_pos (Text.trimBlank.mpr blank), List.nil_append]
    exact ih writable
  | @entry text rest entry entries own others ih =>
    have here := writable entry List.mem_cons_self
    have done := own.read here
    have visible : Text.trim text ≠ "" := fun empty => readOneEmpty entry (empty ▸ done)
    have later := ih fun other inside => writable other (List.mem_cons_of_mem entry inside)
    rw [List.flatMap_cons, piecesSingle (own.free here), if_neg visible]
    exact mapMAppendOk.mpr ⟨[entry], entries, mapMOk.mpr (.cons done .nil), later, rfl⟩

theorem readWritten {texts : List String} (free : ∀ text ∈ texts, ',' ∉ text.toList)
    {entries : List (String × Level)} (done : (texts.flatMap pieces).mapM readOne = .ok entries) :
    Written texts entries ∧ ∀ entry ∈ entries, Writable entry.1 := by
  induction texts generalizing entries with
  | nil =>
    cases done
    exact ⟨.nil, by simp⟩
  | cons text rest ih =>
    rw [List.flatMap_cons, piecesSingle (free text List.mem_cons_self)] at done
    have others := fun other inside => free other (List.mem_cons_of_mem text inside)
    by_cases empty : Text.trim text = ""
    · rw [if_pos empty, List.nil_append] at done
      obtain ⟨written, writable⟩ := ih others done
      exact ⟨.blank (Text.trimBlank.mp empty) written, writable⟩
    · rw [if_neg empty, List.singleton_append] at done
      obtain ⟨_, _⟩ | ⟨here, later⟩ := mapMOk.mp done
      obtain ⟨writes, own⟩ := readWrites (free text List.mem_cons_self) here
      obtain ⟨written, writable⟩ := ih others (mapMOk.mpr later)
      exact ⟨.entry writes written, List.forall_mem_cons.mpr ⟨own, writable⟩⟩

theorem readAllIff {text : String} {entries : List (String × Level)} :
    readAll text = .ok entries ↔ (∃ texts, Text.join ',' texts = text ∧ Written texts entries) ∧
      ∀ entry ∈ entries, Writable entry.1 := by
  constructor
  · intro done
    rw [readAll, ← Text.joinSplit ',' text, piecesJoin] at done
    obtain ⟨written, writable⟩ := readWritten (fun _ => Text.splitFree) done
    exact ⟨⟨_, Text.joinSplit ',' text, written⟩, writable⟩
  · intro given
    obtain ⟨⟨texts, joined, written⟩, writable⟩ := given
    rw [readAll, ← joined, piecesJoin]
    exact written.read writable

theorem readOfWritten {levels : LevelTable} (writable : ∀ key ∈ levels.entries.keys, Writable key)
    {entries : List (String × Level)} (shuffled : entries.Perm levels.entries) {texts : List String}
    (written : Written texts entries) : read (Text.join ',' texts) = .ok levels := by
  have each : ∀ entry ∈ entries, Writable entry.1 :=
    fun entry inside => writable entry.1 (List.mem_map_of_mem (shuffled.subset inside))
  have table : Table.ofList entries = levels := by
    refine Table.ext (Entries.ascendingUnique (Table.ofList entries).ascending levels.ascending ?_)
    intro key
    refine (Entries.findOfList entries key).trans ?_
    rw [lastOfPerm shuffled levels.ascending.nodup, Entries.lastOfDistinct levels.ascending.nodup]
  exact readIff.mpr ⟨entries, readAllIff.mpr ⟨⟨texts, rfl, written⟩, each⟩, table⟩

theorem keysWritable {text : String} {levels : LevelTable} (done : read text = .ok levels) :
    ∀ key ∈ levels.entries.keys, Writable key := by
  obtain ⟨entries, listed, rfl⟩ := readIff.mp done
  have writable := (readAllIff.mp listed).2
  intro key inside
  obtain ⟨entry, there, rfl⟩ := List.mem_map.mp inside
  exact writable entry (Entries.memberOfList there)

theorem writtenPlainly (entries : List (String × Level)) :
    Written (entries.map fun entry => entry.1 ++ "=" ++ entry.2.word) entries := by
  induction entries with
  | nil => exact .nil
  | cons entry rest ih =>
    exact .entry (.assigned (.refl entry.1) (Level.wordSpells entry.2) (.refl entry.2.word)) ih

theorem writtenDirectivesRead :
    (∀ levels : LevelTable, (∀ key ∈ levels.entries.keys, Writable key) →
      ∀ entries, entries.Perm levels.entries → ∀ texts, Written texts entries →
        read (Text.join ',' texts) = .ok levels) ∧
    (∀ entries, Written (entries.map fun entry => entry.1 ++ "=" ++ entry.2.word) entries) ∧
    (∀ text levels, read text = .ok levels → ∀ key ∈ levels.entries.keys, Writable key) ∧
    ∀ text levels, read text = .ok levels ↔ ∃ texts entries, Text.join ',' texts = text ∧
      Written texts entries ∧ (∀ entry ∈ entries, Writable entry.1) ∧
        Table.ofList entries = levels := by
  refine ⟨fun _ writable _ shuffled _ => readOfWritten writable shuffled,
    writtenPlainly, fun _ _ => keysWritable, ?_⟩
  intro text levels
  rw [readIff]
  constructor
  · intro ⟨entries, listed, same⟩
    obtain ⟨⟨texts, joined, written⟩, writable⟩ := readAllIff.mp listed
    exact ⟨texts, entries, joined, written, writable, same⟩
  · intro ⟨texts, entries, joined, written, writable, same⟩
    exact ⟨entries, readAllIff.mpr ⟨⟨texts, joined, written⟩, writable⟩, same⟩

theorem blanksAndCapitalsRead :
    let levels : LevelTable := ⟨[("", .error), ("a.b", .debug)], by decide⟩
    let entries : List (String × Level) := [("a.b", .debug), ("", .error)]
    let texts := ["", " a.b\t= DeBuG ", "  ", "\nERR"]
    (∀ key ∈ levels.entries.keys, Writable key) ∧ entries.Perm levels.entries ∧
      Written texts entries ∧ read ", a.b\t= DeBuG ,  ,\nERR" = .ok levels := by
  intro levels entries texts
  have name : Writable "a.b" :=
    ⟨⟨⟨["a", "b"], by decide⟩, rfl⟩, by decide, by decide, Text.bareTrim "a.b"⟩
  have writable : ∀ key ∈ levels.entries.keys, Writable key :=
    List.forall_mem_cons.mpr ⟨rootWritable, List.forall_mem_singleton.mpr name⟩
  have shuffled : entries.Perm levels.entries := .swap _ _ []
  have naming : Text.Padded "a.b" " a.b\t" := .ofTrim rfl
  have valuing : Text.Padded "DeBuG" " DeBuG " := .ofTrim rfl
  have spelled : Level.debug.Spells "DeBuG" := ⟨"debug", by decide, rfl⟩
  have assigned : Writes " a.b\t= DeBuG " ("a.b", .debug) := .assigned naming spelled valuing
  have short : Level.error.Spells "ERR" := ⟨"err", by decide, rfl⟩
  have alone : Writes "\nERR" ("", .error) := .alone short (.ofTrim rfl)
  have ending : Written ["  ", "\nERR"] [("", .error)] :=
    .blank (Text.trimBlank.mp rfl) (.entry alone .nil)
  have written : Written texts entries := .blank (Text.trimBlank.mp rfl) (.entry assigned ending)
  have done := writtenDirectivesRead.1 levels writable entries shuffled texts written
  exact ⟨writable, shuffled, written, done⟩

end Directives

end LeveledLogging
