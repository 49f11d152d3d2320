import LeveledLogging.Outputs
import LeveledLogging.Proofs.Files
/-! What is written to a sink, and what that does to everything that has come out so far: the
destination of the sink gains the bytes at its end, and nothing else changes. -/
namespace LeveledLogging

theorem Transcript.textOfText (s : String) : (ofText s).text = s := by
  rw [text, ofText, readUTF8, Option.getD_some]

namespace Outputs

/- Everything a destination holds. What is discarded or refused is nowhere. -/
def contents (outputs : Outputs) : Sink → Option ByteArray
  | .discard => none
  | .errorStream => some outputs.errorText.bytes
  | .supplied => some outputs.suppliedText.bytes
  | .broken => none
  | .file place => outputs.files.content? place

structure Receives (before after : Outputs) (sink : Sink) (bytes : ByteArray) : Prop where
  contents : ∀ other, after.contents other =
    if other = sink then (before.contents other).map (· ++ bytes) else before.contents other
  nodes : ∀ place, sink ≠ .file place → after.files.node? place = before.files.node? place
  events : after.events = before.events
  workingDirectory : after.files.workingDirectory = before.files.workingDirectory

abbrev Gains (before after : Outputs) (sink : Sink) (s : String) : Prop :=
  before.Receives after sink s.toUTF8

def Open (outputs : Outputs) : Sink → Prop
  | .file place => (outputs.contents (.file place)).isSome
  | _ => True

theorem receivesNothing (outputs : Outputs) (sink : Sink) : outputs.Receives outputs sink .empty where
  contents := by
    intro other
    split
    · cases outputs.contents other with
      | none => rfl
      | some bytes => exact congrArg some ByteArray.append_empty.symm
    · rfl
  nodes := fun _ _ => rfl
  events := rfl
  workingDirectory := rfl

theorem gainsNothing (outputs : Outputs) (sink : Sink) : outputs.Gains outputs sink "" :=
  receivesNothing outputs sink

theorem offerReceives {outputs : Outputs} {sink : Sink} (isOpen : outputs.Open sink)
    (takes : sink ≠ .broken) (bytes : ByteArray) :
    ∃ after, outputs.offer sink bytes = .ok after ∧ outputs.Receives after sink bytes := by
  cases sink with
  | discard => exact ⟨_, rfl, by intro other; cases other <;> rfl, fun _ _ => rfl, rfl, rfl⟩
  | errorStream => exact ⟨_, rfl, by intro other; cases other <;> rfl, fun _ _ => rfl, rfl, rfl⟩
  | supplied => exact ⟨_, rfl, by intro other; cases other <;> rfl, fun _ _ => rfl, rfl, rfl⟩
  | broken => exact absurd rfl takes
  | file place =>
    obtain ⟨content, found⟩ : ∃ content, outputs.files.content? place = some content :=
      Option.isSome_iff_exists.mp isOpen
    refine ⟨_, rfl, ?_, ?_, rfl, FileSystem.workingDirectoryAppend _ _ _⟩
    · intro other
      cases other with
      | file p =>
        simp only [contents, FileSystem.contentAppend found, Sink.file.injEq]
        split
        · rename_i same
          rw [same, found]
          rfl
        · rfl
      | _ => rfl
    · intro p other
      exact FileSystem.nodeAppend (fun same => other (by rw [same])) _

theorem writeReceives {outputs : Outputs} {sink : Sink} (isOpen : outputs.Open sink)
    (takes : sink ≠ .broken) (bytes : ByteArray) :
    ∃ after, outputs.writeBytes sink bytes = .ok after ∧ outputs.Receives after sink bytes := by
  unfold writeBytes
  split
  · rename_i nothing
    rw [ByteArray.size_eq_zero_iff.mp nothing]
    exact ⟨outputs, rfl, receivesNothing outputs sink⟩
  · exact offerReceives isOpen takes bytes

theorem writeGains {outputs : Outputs} {sink : Sink} (isOpen : outputs.Open sink)
    (takes : sink ≠ .broken) (s : String) :
    ∃ after, outputs.write sink s = .ok after ∧ outputs.Gains after sink s :=
  writeReceives isOpen takes s.toUTF8

theorem writeLineGains {outputs : Outputs} {sink : Sink} (isOpen : outputs.Open sink)
    (takes : sink ≠ .broken) (line : String) :
    outputs.Gains (outputs.writeLine sink line) sink line := by
  obtain ⟨after, written, gains⟩ := writeGains isOpen takes line
  rw [writeLine, written]
  exact gains

theorem writeLineErrors (outputs : Outputs) (line : String) :
    (outputs.writeLine .errorStream line).files = outputs.files := by
  unfold writeLine write writeBytes
  split
  · rename_i written
    split at written <;> cases written <;> rfl
  · rfl

theorem writeNowhere (outputs : Outputs) (line : String) :
    outputs.write .discard line = .ok outputs := by
  unfold write writeBytes
  split <;> rfl

theorem Receives.isOpen {before after : Outputs} {sink : Sink} {bytes : ByteArray}
    (gains : before.Receives after sink bytes) {other : Sink} (isOpen : before.Open other) :
    after.Open other := by
  cases other with
  | file place =>
    have there : (before.contents (.file place)).isSome := isOpen
    change (after.contents (.file place)).isSome
    rw [gains.contents]
    split
    · simpa using there
    · exact there
  | _ => trivial

theorem Open.ofFiles {before after : Outputs} (same : after.files = before.files) {sink : Sink}
    (isOpen : before.Open sink) : after.Open sink := by
  cases sink with
  | file place =>
    change (after.files.content? place).isSome
    rw [same]
    exact isOpen
  | _ => trivial

theorem writeLineFails {outputs : Outputs} {sink : Sink}
    (unable : ¬ (outputs.Open sink ∧ sink ≠ .broken)) (line : String) :
    (outputs.writeLine sink line).files = outputs.files := by
  unfold writeLine write writeBytes
  split
  · rename_i after written
    split at written
    · cases written
      rfl
    · cases sink with
      | file place =>
        cases written
        have missing : outputs.files.content? place = none := by
          by_contra there
          exact unable ⟨Option.isSome_iff_ne_none.mpr there, by simp⟩
        exact FileSystem.appendMissing missing _
      | broken => cases written
      | _ => exact absurd ⟨trivial, by simp⟩ unable
  · rfl

theorem writeLineOpen {outputs : Outputs} {other : Sink} (isOpen : outputs.Open other) (sink : Sink)
    (line : String) : (outputs.writeLine sink line).Open other := by
  by_cases able : outputs.Open sink ∧ sink ≠ .broken
  · exact (writeLineGains able.1 able.2 line).isOpen isOpen
  · exact isOpen.ofFiles (writeLineFails able line)

theorem Gains.append {before between after : Outputs} {sink : Sink} {s t : String}
    (first : before.Gains between sink s) (second : between.Gains after sink t) :
    before.Gains after sink (s ++ t) where
  contents other := by
    rw [second.contents, first.contents]
    split
    · rw [Option.map_map]
      congr 1
      funext bytes
      simp [ByteArray.append_assoc]
    · rfl
  nodes place other := (second.nodes place other).trans (first.nodes place other)
  events := second.events.trans first.events
  workingDirectory := second.workingDirectory.trans first.workingDirectory

theorem Gains.emit {before after : Outputs} {sink : Sink} {s : String}
    (gains : before.Gains after sink s) (event : Event) :
    (before.emit event).Gains (after.emit event) sink s where
  contents other := by
    have same : ∀ outputs : Outputs, (outputs.emit event).contents other = outputs.contents other := by
      cases other <;> exact fun _ => rfl
    rw [same, same]
    exact gains.contents other
  nodes := gains.nodes
  events := congrArg (· ++ [event]) gains.events
  workingDirectory := gains.workingDirectory

theorem Gains.errorText {before after : Outputs} {sink : Sink} {s already : String}
    (gains : before.Gains after sink s) (so : before.errorText = already) :
    after.errorText = Transcript.ofText (already ++ if sink = .errorStream then s else "") := by
  have here := gains.contents .errorStream
  simp only [Outputs.contents, so] at here
  refine Transcript.ext (Option.some.inj (here.trans ?_))
  by_cases errors : sink = .errorStream
  · rw [if_pos errors.symm, if_pos errors, Option.map_some]
    exact congrArg some String.toByteArray_append.symm
  · rw [if_neg (Ne.symm errors), if_neg errors, String.append_empty]

theorem Gains.content {before after : Outputs} {sink : Sink} {s : String}
    (gains : before.Gains after sink s) (place : Place) :
    after.files.content? place =
      if sink = .file place then (before.files.content? place).map (· ++ s.toUTF8)
      else before.files.content? place := by
  have here := gains.contents (.file place)
  by_cases same : sink = .file place
  · rw [if_pos same.symm] at here
    rw [if_pos same]
    exact here
  · rw [if_neg (Ne.symm same)] at here
    rw [if_neg same]
    exact here

/- The place of an open file is no directory, so that no path changes its meaning. -/
theorem Gains.keepsWays {before after : Outputs} {sink : Sink} {s : String}
    (gains : before.Gains after sink s) (isOpen : before.Open sink) :
    FileSystem.KeepsWays before.files after.files := by
  refine ⟨?_, gains.workingDirectory⟩
  intro place there
  rw [gains.nodes place]
  · exact there
  · rintro rfl
    obtain ⟨content, found⟩ := Option.isSome_iff_exists.mp isOpen
    cases (FileSystem.contentSome.mp found).symm.trans there

end Outputs

end LeveledLogging
