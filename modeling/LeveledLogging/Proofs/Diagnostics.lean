import LeveledLogging.Command.Run
import LeveledLogging.Proofs.Opening
/-! What the program tells about itself while it sends a message. Which diagnostics there are does not
depend on the text of the message, and those that the subscriber lets pass are lines where it writes. -/
namespace LeveledLogging

namespace Outputs

def writeLines (outputs : Outputs) (sink : Sink) (lines : List String) : Outputs :=
  lines.foldl (fun outputs line => outputs.writeLine sink line) outputs

theorem writeLinesGains {outputs : Outputs} {sink : Sink} (isOpen : outputs.Open sink)
    (takes : sink ≠ .broken) (lines : List String) :
    outputs.Gains (outputs.writeLines sink lines) sink (String.join lines) := by
  induction lines generalizing outputs with
  | nil => exact outputs.gainsNothing sink
  | cons line rest ih =>
    have first := writeLineGains isOpen takes line
    rw [String.join_cons]
    exact first.append (ih (first.isOpen isOpen))

theorem writeLinesOpen {outputs : Outputs} {other : Sink} (isOpen : outputs.Open other) (sink : Sink)
    (lines : List String) : (outputs.writeLines sink lines).Open other := by
  induction lines generalizing outputs with
  | nil => exact isOpen
  | cons line rest ih => exact ih (writeLineOpen isOpen sink line)

theorem writeLinesErrors (outputs : Outputs) (lines : List String) :
    (outputs.writeLines .errorStream lines).files = outputs.files := by
  induction lines generalizing outputs with
  | nil => rfl
  | cons line rest ih => exact (ih _).trans (writeLineErrors outputs line)

end Outputs

namespace Command

def toldLines (s : Surroundings) (filter : SubjectFilter) (trace : Bool) (told : List Diagnostic) :
    List String :=
  (told.filter fun diagnostic => filter.passes diagnostic.subject Diagnostic.severity).map
    fun diagnostic =>
      diagnostic.line s.now (if trace then some (s.eventSite diagnostic.subject) else none)

def toldText (s : Surroundings) (filter : SubjectFilter) (trace : Bool) (told : List Diagnostic) :
    String :=
  String.join (toldLines s filter trace told)

theorem toldNothing (s : Surroundings) (trace : Bool) (told : List Diagnostic) :
    toldText s (.everywhere ⟨none⟩) trace told = "" := by
  have none : told.filter (fun diagnostic =>
      (SubjectFilter.everywhere ⟨none⟩).passes diagnostic.subject Diagnostic.severity) = [] :=
    List.filter_eq_nil_iff.mpr fun _ _ passes => nomatch passes
  rw [toldText, toldLines, none]
  rfl

theorem tellLines (s : Surroundings) (subscriber : Subscriber) (outputs : Outputs)
    (told : List Diagnostic) :
    tell s subscriber outputs told = outputs.writeLines subscriber.sink
      (toldLines s subscriber.filter subscriber.trace told) := by
  rw [tell, Outputs.writeLines, toldLines, List.foldl_map, List.foldl_filter]
  rfl

theorem tellGains {outputs : Outputs} {subscriber : Subscriber}
    (isOpen : outputs.Open subscriber.sink) (takes : subscriber.sink ≠ .broken) (s : Surroundings)
    (told : List Diagnostic) :
    outputs.Gains (tell s subscriber outputs told) subscriber.sink
      (toldText s subscriber.filter subscriber.trace told) := by
  rw [tellLines]
  exact Outputs.writeLinesGains isOpen takes _

theorem tellOpen {outputs : Outputs} {sink : Sink} (isOpen : outputs.Open sink) (s : Surroundings)
    (subscriber : Subscriber) (told : List Diagnostic) : (tell s subscriber outputs told).Open sink := by
  rw [tellLines]
  exact Outputs.writeLinesOpen isOpen _ _

theorem tellErrors {subscriber : Subscriber} (aside : subscriber.sink = .errorStream)
    (s : Surroundings) (outputs : Outputs) (told : List Diagnostic) :
    (tell s subscriber outputs told).files = outputs.files := by
  rw [tellLines, aside]
  exact outputs.writeLinesErrors _

theorem toldErrors {subscriber : Subscriber} (aside : subscriber.sink = .errorStream)
    (s : Surroundings) (files : FileSystem) (told : List Diagnostic) :
    let after := tell s subscriber (.start files) told
    after.files = files ∧ after.events = [] ∧
      after.errorText = Transcript.ofText (toldText s subscriber.filter subscriber.trace told) := by
  intro after
  have isOpen : (Outputs.start files).Open subscriber.sink := by rw [aside]; trivial
  have gains := tellGains isOpen (by simp [aside]) s told
  have said := gains.errorText rfl
  rw [if_pos aside, String.empty_append] at said
  exact ⟨tellErrors aside s _ told, gains.events, said⟩

theorem tellAppend (s : Surroundings) (subscriber : Subscriber) (outputs : Outputs)
    (told more : List Diagnostic) :
    tell s subscriber (tell s subscriber outputs told) more =
      tell s subscriber outputs (told ++ more) :=
  List.foldl_append.symm

end Command

end LeveledLogging
