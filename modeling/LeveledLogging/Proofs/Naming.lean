import LeveledLogging.Document.Conversion
import LeveledLogging.Proofs.Names
import LeveledLogging.Proofs.Results
/-! How names come about. A text and the segments between its dots make a name under the same
condition, the text of a name and its document lead back to it (`readDecoded`), and a step down and a
step up undo each other (`childIff`). A step checks only the segments that it adds, which is enough:
the lists that steps lead to are exactly those of segments (`namesOneToOne`). -/
namespace LeveledLogging.LoggerName

/- The segments that a text stands for. The empty text stands for none, not for one empty segment. -/
def pieces (s : String) : List String := if s = "" then [] else Text.split '.' s

theorem ofSegmentsIff {segments : List String} {name : LoggerName} :
    ofSegments segments = .ok name ↔ name.segments = segments := by
  constructor
  · exact ofSegmentsOk
  · rintro rfl
    exact ofSegmentsSegments name

theorem ofSegmentsSucceeds {segments : List String} :
    (∃ name, ofSegments segments = .ok name) ↔ ∀ s ∈ segments, IsSegment s := by
  constructor
  · intro ⟨name, made⟩
    rw [← ofSegmentsOk made]
    exact name.valid
  · intro valid
    exact ⟨⟨segments, valid⟩, ofSegmentsIff.mpr rfl⟩

theorem readPieces (s : String) : read s = ofSegments (pieces s) := by
  unfold read pieces
  split <;> rfl

theorem readSegments {s : String} {name : LoggerName} :
    read s = .ok name ↔ name.segments = pieces s := by
  rw [readPieces, ofSegmentsIff]

theorem readSucceeds {s : String} :
    (∃ name, read s = .ok name) ↔ s = "" ∨ ∀ piece ∈ Text.split '.' s, piece ≠ "" := by
  rw [readPieces, ofSegmentsSucceeds, pieces]
  by_cases root : s = ""
  · simp [root]
  · rw [if_neg root]
    constructor
    · intro valid
      exact .inr fun piece inside => (valid piece inside).1
    · intro given piece inside
      exact ⟨given.resolve_left root piece inside, Text.splitFree inside⟩

theorem decodedText {s : String} {name : LoggerName} :
    (Document.text s).asName = .ok name ↔ read s = .ok name := by
  simp only [Document.asName, Document.asText, bind, Except.bind]
  cases read s with
  | error e => simp [throw, throwThe, MonadExceptOf.throw]
  | ok made => simp [pure, Except.pure]

theorem readDecoded {document : Document} {name : LoggerName} :
    document.asName = .ok name ↔ document = .ofName name := by
  constructor
  · intro decoded
    cases document with
    | text s => exact congrArg Document.text (dottedOfRead (decodedText.mp decoded)).symm
    | null | boolean _ | integer _ | float _ | list _ | object _ => contradiction
  · rintro rfl
    exact decodedText.mpr (readDotted name)

theorem childSegments {name made : LoggerName} {segment : String} :
    name.child segment = .ok made ↔
      IsSegment segment ∧ made.segments = name.segments ++ [segment] := by
  unfold child
  split
  · rename_i fault found
    have refused : ¬ IsSegment segment := by
      intro valid
      rw [segmentFaultNone.mpr valid] at found
      contradiction
    simp [refused]
  · rename_i faultless
    have valid : IsSegment segment := segmentFaultNone.mp faultless
    constructor
    · intro done
      cases done
      exact ⟨valid, rfl⟩
    · intro ⟨_, same⟩
      exact congrArg Except.ok (segmentsInjective _ _ same.symm)

theorem childSucceeds {name : LoggerName} {segment : String} :
    (∃ made, name.child segment = .ok made) ↔ IsSegment segment := by
  constructor
  · intro ⟨made, done⟩
    exact (childSegments.mp done).1
  · intro valid
    have whole : ∀ s ∈ name.segments ++ [segment], IsSegment s :=
      List.forall_mem_append.mpr ⟨name.valid, List.forall_mem_singleton.mpr valid⟩
    exact ⟨⟨_, whole⟩, childSegments.mpr ⟨valid, rfl⟩⟩

theorem parentSegments {name above : LoggerName} :
    name.parent = some above ↔ name.segments ≠ [] ∧ name.segments.dropLast = above.segments := by
  unfold parent
  split
  · rename_i root
    simp [root]
  · rename_i below
    constructor
    · intro done
      cases done
      exact ⟨below, rfl⟩
    · intro ⟨_, same⟩
      exact congrArg some (segmentsInjective _ _ same)

theorem childIff {name made : LoggerName} {segment : String} :
    name.child segment = .ok made ↔
      made.parent = some name ∧ made.segments.getLast? = some segment := by
  rw [childSegments, parentSegments]
  constructor
  · intro ⟨_, same⟩
    simp [same]
  · intro ⟨⟨below, above⟩, last⟩
    have parts : made.segments = name.segments ++ [segment] := by
      rw [← above]
      exact (List.dropLast_append_getLast? segment last).symm
    have inside : segment ∈ made.segments := List.mem_of_getLast? last
    exact ⟨made.valid segment inside, parts⟩

theorem childDeeper {name made : LoggerName} {segment : String}
    (done : name.child segment = .ok made) : made.depth = name.depth + 1 := by
  rw [depth, (childSegments.mp done).2, List.length_append]
  rfl

theorem parentChild {name : LoggerName} (below : name ≠ root) :
    ∃ above last, name.parent = some above ∧ name.segments.getLast? = some last ∧
      above.child last = .ok name := by
  have nonempty : name.segments ≠ [] := fun empty => below (segmentsInjective name root empty)
  have valid : ∀ s ∈ name.segments.dropLast, IsSegment s :=
    fun s inside => name.valid s (List.dropLast_subset _ inside)
  have up : name.parent = some ⟨_, valid⟩ := parentSegments.mpr ⟨nonempty, rfl⟩
  have ending := List.getLast?_eq_some_getLast nonempty
  exact ⟨_, _, up, ending, childIff.mpr ⟨up, ending⟩⟩

/- A step from a name to a name; some begin anew and forget the name before. -/
inductive Step where
  | root
  | read (text : String)
  | ofSegments (segments : List String)
  | decode (document : Document)
  | child (segment : String)
  | parent

namespace Step

def take (name : LoggerName) : Step → Option LoggerName
  | root => some .root
  | read text => (LoggerName.read text).toOption
  | ofSegments segments => (LoggerName.ofSegments segments).toOption
  | decode document => document.asName.toOption
  | child segment => (name.child segment).toOption
  | parent => name.parent

def checked (segments : List String) : Option (List String) :=
  if ∀ s ∈ segments, IsSegment s then some segments else none

def onSegments (segments : List String) : Step → Option (List String)
  | root => some []
  | read text => checked (pieces text)
  | ofSegments given => checked given
  | decode (.text s) => checked (pieces s)
  | decode _ => none
  | child segment => if IsSegment segment then some (segments ++ [segment]) else none
  | parent => if segments = [] then none else some segments.dropLast

theorem checkedIff {given segments : List String} :
    checked given = some segments ↔ given = segments ∧ ∀ s ∈ segments, IsSegment s := by
  unfold checked
  constructor
  · intro done
    split at done
    · rename_i valid
      cases done
      exact ⟨rfl, valid⟩
    · contradiction
  · rintro ⟨rfl, valid⟩
    exact if_pos valid

theorem onSegmentsKeeps {segments next : List String} {step : Step}
    (valid : ∀ s ∈ segments, IsSegment s) (done : step.onSegments segments = some next) :
    ∀ s ∈ next, IsSegment s := by
  cases step with
  | root =>
    cases done
    simp
  | read text => exact (checkedIff.mp done).2
  | ofSegments given => exact (checkedIff.mp done).2
  | decode document =>
    cases document with
    | text s => exact (checkedIff.mp done).2
    | null | boolean _ | integer _ | float _ | list _ | object _ => contradiction
  | child segment =>
    rw [onSegments, Option.ite_none_right_eq_some] at done
    cases done.2
    exact List.forall_mem_append.mpr ⟨valid, List.forall_mem_singleton.mpr done.1⟩
  | parent =>
    rw [onSegments, Option.ite_none_left_eq_some] at done
    cases done.2
    exact fun s inside => valid s (List.dropLast_subset _ inside)

theorem takeIff {name next : LoggerName} {step : Step} :
    step.take name = some next ↔ step.onSegments name.segments = some next.segments := by
  have whole : ∀ given : List String,
      (checked given = some next.segments ↔ next.segments = given) := by
    intro given
    rw [checkedIff]
    exact ⟨fun ⟨same, _⟩ => same.symm, fun same => ⟨same.symm, next.valid⟩⟩
  cases step with
  | root =>
    constructor
    · intro done
      cases done
      rfl
    · intro same
      exact congrArg some (segmentsInjective .root next (Option.some.inj same))
  | read text => rw [take, toOptionSome, readSegments, onSegments, whole]
  | ofSegments given => rw [take, toOptionSome, ofSegmentsIff, onSegments, whole]
  | decode document =>
    rw [take, toOptionSome]
    cases document with
    | text s => rw [decodedText, readSegments, onSegments, whole]
    | null | boolean _ | integer _ | float _ | list _ | object _ =>
      rw [readDecoded]
      constructor <;> intro <;> contradiction
  | child segment =>
    rw [take, toOptionSome, childSegments, onSegments, Option.ite_none_right_eq_some,
      Option.some_inj]
    exact and_congr_right fun _ => eq_comm
  | parent =>
    rw [take, parentSegments, onSegments, Option.ite_none_left_eq_some, Option.some_inj]

def run (steps : List Step) : Option LoggerName := steps.foldlM take .root

def runSegments (steps : List Step) : Option (List String) := steps.foldlM onSegments []

theorem runSegmentsKeeps {steps : List Step} {segments final : List String}
    (valid : ∀ s ∈ segments, IsSegment s) (done : steps.foldlM onSegments segments = some final) :
    ∀ s ∈ final, IsSegment s := by
  induction steps generalizing segments with
  | nil =>
    cases done
    exact valid
  | cons step rest ih =>
    rw [List.foldlM_cons] at done
    obtain ⟨next, first, later⟩ := Option.bind_eq_some_iff.mp done
    exact ih (onSegmentsKeeps valid first) later

theorem takeSegments (name : LoggerName) (step : Step) :
    (step.take name).map segments = step.onSegments name.segments := by
  refine Option.ext fun p => ?_
  rw [Option.map_eq_some_iff]
  constructor
  · rintro ⟨next, taken, rfl⟩
    exact takeIff.mp taken
  · intro reached
    exact ⟨⟨p, onSegmentsKeeps name.valid reached⟩, takeIff.mpr reached, rfl⟩

theorem runFromSegments (name : LoggerName) (steps : List Step) :
    (steps.foldlM take name).map segments = steps.foldlM onSegments name.segments := by
  induction steps generalizing name with
  | nil => rfl
  | cons step rest ih =>
    rw [List.foldlM_cons, List.foldlM_cons, ← takeSegments]
    cases step.take name with
    | none => rfl
    | some next => exact ih next

theorem childrenReached (above below : List String) (valid : ∀ s ∈ below, IsSegment s) :
    (below.map Step.child).foldlM onSegments above = some (above ++ below) := by
  induction below generalizing above with
  | nil => exact congrArg some (List.append_nil above).symm
  | cons segment rest ih =>
    obtain ⟨first, others⟩ := List.forall_mem_cons.mp valid
    have reached : (Step.child segment).onSegments above = some (above ++ [segment]) := if_pos first
    rw [List.map_cons, List.foldlM_cons, reached]
    change (rest.map Step.child).foldlM onSegments (above ++ [segment]) = _
    rw [ih (above ++ [segment]) others, List.append_assoc]
    rfl

theorem runSegmentsIff {segments : List String} :
    (∃ steps, runSegments steps = some segments) ↔ ∀ s ∈ segments, IsSegment s := by
  constructor
  · intro ⟨steps, done⟩
    exact runSegmentsKeeps (by simp) done
  · intro valid
    exact ⟨_, childrenReached [] segments valid⟩

end Step

theorem namesOneToOne :
    (∀ s, (∃ name, read s = .ok name) ↔ s = "" ∨ ∀ piece ∈ Text.split '.' s, piece ≠ "") ∧
    (∀ s name, read s = .ok name ↔ name.dotted = s) ∧
    (∀ s name, read s = .ok name → Document.ofName name = .text s) ∧
    (∀ document name, document.asName = .ok name ↔ document = Document.ofName name) ∧
    (∀ segments, (∃ name, ofSegments segments = .ok name) ↔ ∀ s ∈ segments, IsSegment s) ∧
    (∀ segments name, ofSegments segments = .ok name →
      name.segments = segments ∧ read name.dotted = .ok name) ∧
    (∀ steps, (Step.run steps).map LoggerName.segments = Step.runSegments steps) ∧
    (∀ segments, (∃ steps, Step.runSegments steps = some segments) ↔
      ∀ s ∈ segments, IsSegment s) ∧
    (∀ (name : LoggerName) segment, (∃ made, name.child segment = .ok made) ↔ IsSegment segment) ∧
    (∀ (name : LoggerName) segment made, name.child segment = .ok made →
      made.parent = some name ∧ made.depth = name.depth + 1) ∧
    ∀ name, name ≠ root → ∃ above last, name.parent = some above ∧
      name.segments.getLast? = some last ∧ above.child last = .ok name := by
  refine ⟨fun _ => readSucceeds, fun _ _ => readIff, ?_, fun _ _ => readDecoded,
    fun _ => ofSegmentsSucceeds, ?_, Step.runFromSegments root, fun _ => Step.runSegmentsIff,
    fun _ _ => childSucceeds, ?_, fun _ => parentChild⟩
  · intro s name done
    exact congrArg Document.text (dottedOfRead done)
  · intro segments name made
    exact ⟨ofSegmentsOk made, readDotted name⟩
  · intro name segment made done
    exact ⟨(childIff.mp done).1, childDeeper done⟩

theorem siblingNamed :
    let steps : List Step := [.read "server.http.v2", .parent, .child "db"]
    let name : LoggerName := ⟨["server", "http", "db"], by decide⟩
    Step.run steps = some name ∧ (∀ piece ∈ Text.split '.' "server.http.db", piece ≠ "") ∧
      read "server.http.db" = .ok name ∧ Document.ofName name = .text "server.http.db" ∧
      name ≠ root ∧ ∃ above, name.parent = some above ∧ above.child "db" = .ok name ∧
        name.depth = above.depth + 1 := by
  intro steps name
  obtain ⟨readable, written, encoded, _, _, _, _, _, _, deeper, upAndDown⟩ := namesOneToOne
  have pieces : ∀ piece ∈ Text.split '.' "server.http.db", piece ≠ "" := by decide
  obtain ⟨made, done⟩ := (readable "server.http.db").mpr (.inr pieces)
  have same : made = name := dottedInjective ((written "server.http.db" made).mp done)
  cases same
  have below : name ≠ root := by decide
  obtain ⟨above, last, up, ending, down⟩ := upAndDown name below
  cases Option.some.inj ending
  exact ⟨by decide, pieces, done, encoded _ name done, below, above, up, down,
    (deeper above "db" name down).2⟩

end LeveledLogging.LoggerName
