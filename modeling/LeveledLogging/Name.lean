import LeveledLogging.Error
import LeveledLogging.Text.Pieces
/-!
Names of loggers: segments that are not empty and hold no dot, written with dots between them. The
name without segments is the root. A name is made again from its segments (`ofSegmentsSegments`).
-/
namespace LeveledLogging

def IsSegment (s : String) : Prop := s ≠ "" ∧ '.' ∉ s.toList

instance (s : String) : Decidable (IsSegment s) := inferInstanceAs (Decidable (_ ∧ _))

structure LoggerName where
  segments : List String
  valid : ∀ s ∈ segments, IsSegment s
  deriving DecidableEq

namespace LoggerName

def root : LoggerName := ⟨[], by simp⟩

def isRoot (name : LoggerName) : Bool := name.segments.isEmpty

def depth (name : LoggerName) : Nat := name.segments.length

def segmentFault (s : String) : Option Invalid :=
  if s = "" then some .emptySegment
  else if '.' ∈ s.toList then some (.dottedSegment s)
  else none

theorem segmentFaultNone {s : String} : segmentFault s = none ↔ IsSegment s := by
  unfold segmentFault IsSegment
  split
  · simp_all
  · split <;> simp_all

def ofSegments (segments : List String) : Except LogError LoggerName :=
  match h : segments.findSome? segmentFault with
  | some fault => .error (.validation fault)
  | none => .ok ⟨segments, fun s hs => segmentFaultNone.1 (List.findSome?_eq_none_iff.1 h s hs)⟩

def read (s : String) : Except LogError LoggerName :=
  if s = "" then .ok root else ofSegments (Text.split '.' s)

def dots (segments : List String) : String := Text.join '.' segments

def dotted (name : LoggerName) : String := dots name.segments

def child (name : LoggerName) (segment : String) : Except LogError LoggerName :=
  match h : segmentFault segment with
  | some fault => .error (.validation fault)
  | none => .ok ⟨name.segments ++ [segment], fun s hs => by
      rcases List.mem_append.1 hs with hs | hs
      · exact name.valid s hs
      · rw [List.mem_singleton.1 hs]
        exact segmentFaultNone.1 h⟩

def parent (name : LoggerName) : Option LoggerName :=
  if name.segments = [] then none
  else some ⟨name.segments.dropLast, fun s hs => name.valid s ((List.dropLast_subset _) hs)⟩

def before (a b : LoggerName) : Bool :=
  !List.lex b.segments a.segments (fun s t => decide (s < t))

def sort (names : List LoggerName) : List LoggerName := names.mergeSort before

theorem ofSegmentsSegments (name : LoggerName) : ofSegments name.segments = .ok name := by
  have h : name.segments.findSome? segmentFault = none :=
    List.findSome?_eq_none_iff.2 fun s hs => segmentFaultNone.2 (name.valid s hs)
  unfold ofSegments
  split
  · rename_i fault hf
    rw [h] at hf
    cases hf
  · rfl

end LoggerName

end LeveledLogging
