import LeveledLogging.Proofs.Lines
/-! A record in a log and the same record on its own. The line of a log replaces line ends in the text
only and leaves the place out, the text of a record replaces them everywhere and shows the place behind
the values. The two agree exactly when this makes no difference and there is something behind the label
at all (`lineIsDisplay`). -/
namespace LeveledLogging

open Text

namespace Record

theorem oneLineAppend (a b : String) : oneLine (a ++ b) = oneLine a ++ oneLine b := by
  apply String.toList_inj.mp
  simp [oneLine]

theorem oneLineEmpty {s : String} : oneLine s = "" ↔ s = "" := by
  rw [← String.toList_inj, ← String.toList_inj]
  simp [oneLine]

theorem lengthOneLine (s : String) : (oneLine s).length = s.length := by
  rw [← String.length_toList, ← String.length_toList]
  simp [oneLine]

theorem oneLineWhole {s : String} (whole : lineEnds s = 0) : oneLine s = s := by
  have free : '\n' ∉ s.toList := lineEndsNone.mp whole
  apply String.toList_inj.mp
  rw [oneLine, String.toList_ofList]
  refine (List.map_congr_left ?_).trans (List.map_id _)
  intro c inside
  have other : c ≠ '\n' := fun isEnd => free (isEnd ▸ inside)
  exact if_neg other

theorem bracedEmpty {pairs : List (String × String)} : bracedText pairs = "" ↔ pairs = [] := by
  unfold bracedText
  split
  · simp_all
  · simp_all

theorem lengthBraced {pairs : List (String × String)} (filled : pairs ≠ []) :
    (bracedText pairs).length = (joinChars ' ' (pairs.map (String.toList ∘ pairText))).length + 2 := by
  have braces : "\x7b".length = 1 ∧ "\x7d".length = 1 := by decide
  rw [bracedText, if_neg filled, String.length_append, String.length_append, braces.1, braces.2, join,
    List.map_map, String.length_ofList]
  omega

theorem bracedLonger {pairs more : List (String × String)} (filled : pairs ≠ []) (others : more ≠ []) :
    (bracedText pairs).length < (bracedText (pairs ++ more)).length := by
  have whole : pairs ++ more ≠ [] := by simp [filled]
  rw [lengthBraced filled, lengthBraced whole, List.map_append,
    joinCharsAppend (by simp [filled]) (by simp [others]), List.length_append, List.length_cons]
  omega

theorem valuesEmpty {record : Record} : record.valuesText = "" ↔ record.values = [] := bracedEmpty

theorem originShown {record : Record} (filled : record.values ≠ []) :
    record.valuesTextWithOrigin = bracedText (record.values ++ record.originPairs) := by
  rw [valuesTextWithOrigin, if_neg filled]

theorem valuesAgree {record : Record} (filled : record.values ≠ []) :
    record.valuesText = oneLine record.valuesTextWithOrigin ↔
      record.file = "" ∧ ∀ pair ∈ record.values, '\n' ∉ pair.1.toList := by
  have keys : lineEnds record.valuesText = 0 ↔ ∀ pair ∈ record.values, '\n' ∉ pair.1.toList := by
    rw [lineEndsValues, List.sum_eq_zero_iff_forall_eq_nat, List.forall_mem_map]
    simp only [lineEndsNone]
  rw [originShown filled]
  constructor
  · intro same
    -- The other text has no line end, and with a place in it it would be longer.
    have whole : lineEnds record.valuesText = 0 := by rw [same, lineEndsOneLine]
    refine ⟨?_, keys.mp whole⟩
    by_cases unknown : record.file = ""
    · exact unknown
    · have placed : record.originPairs ≠ [] := by simp [originPairs, unknown]
      have longer := bracedLonger filled placed
      rw [← lengthOneLine (bracedText (record.values ++ record.originPairs)), ← same] at longer
      exact absurd longer (Nat.lt_irrefl _)
  · intro ⟨unknown, whole⟩
    have unplaced : record.originPairs = [] := if_pos unknown
    rw [unplaced, List.append_nil]
    exact (oneLineWhole (keys.mpr whole)).symm

theorem displayParts (record : Record) :
    record.display = oneLine record.text ++
      (if record.values ≠ [] ∧ record.text ≠ "" then " " else "") ++
        oneLine record.valuesTextWithOrigin := by
  have shown : record.valuesTextWithOrigin ≠ "" ↔ record.values ≠ [] := by
    by_cases valueless : record.values = []
    · simp [valuesTextWithOrigin, valueless]
    · rw [originShown valueless, Ne, bracedEmpty]
      simp [valueless]
  have blank : oneLine " " = " " ∧ oneLine "" = "" := by decide
  simp only [display, oneLineAppend, apply_ite oneLine, blank, shown]

theorem bodyIsDisplay (record : Record) :
    spaced (oneLine record.text) ++ spaced record.valuesText = " " ++ record.display ↔
      (record.text ≠ "" ∨ record.values ≠ []) ∧
        (record.values = [] ∨ record.valuesText = oneLine record.valuesTextWithOrigin) := by
  simp only [displayParts, spaced, oneLineEmpty, valuesEmpty]
  have nothing : record.values = [] → oneLine record.valuesTextWithOrigin = "" := by
    intro valueless
    rw [oneLineEmpty, valuesTextWithOrigin, if_pos valueless]
  -- A blank stands only between parts that are both there, which differs from case to case.
  by_cases silent : record.text = ""
  · by_cases valueless : record.values = []
    · simp [silent, valueless, oneLine]
    · simp [silent, valueless, oneLine]
  · by_cases valueless : record.values = []
    · simp [silent, valueless, nothing valueless]
    · simp [silent, valueless, String.append_assoc]

theorem labelled (record : Record) (name : List String) (rest : String) :
    spaced (record.label name) ++ rest = " " ++ record.displayUnder name ↔
      rest = " " ++ record.display := by
  unfold spaced displayUnder
  by_cases bare : record.label name = ""
  · simp [bare]
  · simp only [bare, reduceIte, String.append_assoc, String.append_right_inj]

theorem untracedLine (record : Record) (now : Moment) (name : List String) (level : Level) :
    record.logLine now name level false = record.lineHead now name level ++ "\n" := by
  have untraced : ¬ (false = true ∧ record.origin ≠ "") := fun traced => Bool.false_ne_true traced.1
  rw [logLineHead, if_neg untraced, String.append_empty]

/- The two texts of a record agree if there is something to show behind the label, values do not come
with a place, and no key is broken; otherwise they do not. -/
theorem lineIsDisplay (record : Record) (now : Moment) (name : List String) (level : Level) :
    record.logLine now name level false =
        now.localText ++ rightAligned 6 level.tag ++ " " ++ record.displayUnder name ++ "\n" ↔
      (record.text ≠ "" ∨ record.values ≠ []) ∧ (record.values = [] ∨ record.file = "") ∧
        ∀ pair ∈ record.values, '\n' ∉ pair.1.toList := by
  rw [untracedLine, String.append_left_inj, lineHead]
  simp only [String.append_assoc, String.append_right_inj]
  rw [labelled, bodyIsDisplay]
  refine and_congr_right fun _ => ?_
  by_cases valueless : record.values = []
  · simp [valueless]
  · simp only [valueless, false_or, valuesAgree valueless]

end Record

end LeveledLogging
