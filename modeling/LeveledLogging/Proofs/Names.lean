import LeveledLogging.Name
/-! Names and their dotted texts determine each other. The empty text is the root although it has one
empty piece, so that every statement has the root as a case of its own. -/
namespace LeveledLogging.LoggerName

theorem splitDots {p : List String} (below : p ≠ []) (valid : ∀ s ∈ p, IsSegment s) :
    Text.split '.' (dots p) = p :=
  Text.splitJoin below fun s inside => (valid s inside).2

theorem dotsEmpty {p : List String} (valid : ∀ s ∈ p, IsSegment s) : dots p = "" ↔ p = [] := by
  constructor
  · intro empty
    by_cases below : p = []
    · exact below
    · have pieces := splitDots below valid
      rw [empty] at pieces
      have blank : Text.split '.' "" = [""] := by decide
      rw [blank] at pieces
      have inside : "" ∈ p := by rw [← pieces]; exact List.mem_singleton.mpr rfl
      exact absurd rfl (valid "" inside).1
  · rintro rfl
    rfl

theorem dotsInjective {p q : List String} (validP : ∀ s ∈ p, IsSegment s)
    (validQ : ∀ s ∈ q, IsSegment s) : dots p = dots q ↔ p = q := by
  constructor
  · intro same
    by_cases root : p = []
    · subst root
      exact ((dotsEmpty validQ).mp same.symm).symm
    · have below : q ≠ [] := by
        rintro rfl
        exact root ((dotsEmpty validP).mp same)
      rw [← splitDots root validP, same, splitDots below validQ]
  · rintro rfl
    rfl

theorem segmentsInjective (a b : LoggerName) (same : a.segments = b.segments) : a = b := by
  cases a
  cases b
  cases same
  rfl

theorem dottedInjective {a b : LoggerName} (same : a.dotted = b.dotted) : a = b :=
  segmentsInjective a b ((dotsInjective a.valid b.valid).mp same)

theorem ofSegmentsOk {segments : List String} {name : LoggerName}
    (made : ofSegments segments = .ok name) : name.segments = segments := by
  unfold ofSegments at made
  split at made
  · cases made
  · cases made
    rfl

theorem readDotted (name : LoggerName) : read name.dotted = .ok name := by
  unfold read dotted
  by_cases root : name.segments = []
  · rw [if_pos ((dotsEmpty name.valid).mpr root)]
    obtain ⟨segments, valid⟩ := name
    cases root
    rfl
  · rw [if_neg fun empty => root ((dotsEmpty name.valid).mp empty), splitDots root name.valid]
    exact ofSegmentsSegments name

theorem dottedOfRead {s : String} {name : LoggerName} (parsed : read s = .ok name) :
    name.dotted = s := by
  unfold read at parsed
  split at parsed
  · rename_i root
    cases parsed
    exact root.symm
  · rw [dotted, ofSegmentsOk parsed]
    exact Text.joinSplit '.' s

theorem readIff {s : String} {name : LoggerName} : read s = .ok name ↔ name.dotted = s := by
  constructor
  · exact dottedOfRead
  · rintro rfl
    exact readDotted name

theorem validAbove {p : List String} {name : LoggerName} (isAbove : p <+: name.segments) :
    ∀ s ∈ p, IsSegment s :=
  fun s inside => name.valid s (isAbove.subset inside)

end LeveledLogging.LoggerName
