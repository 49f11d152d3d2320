import LeveledLogging.Context
import LeveledLogging.Proofs.Files
/-! Trees that differ in nothing but what their files hold. A path leads to the same place in both, and
is opened in both or refused for the same reason in both (`Alike.openFile`). Where a log may go
therefore does not depend on what has been logged. -/
namespace LeveledLogging

def FileNode.isFile : FileNode → Bool
  | directory => false
  | file _ => true

namespace FileSystem

structure Alike (one other : FileSystem) : Prop where
  kinds : ∀ place, (other.node? place).map FileNode.isFile = (one.node? place).map FileNode.isFile
  workingDirectory : other.workingDirectory = one.workingDirectory

theorem alikeItself (fs : FileSystem) : fs.Alike fs := ⟨fun _ => rfl, rfl⟩

theorem Alike.symm {one other : FileSystem} (alike : one.Alike other) : other.Alike one :=
  ⟨fun place => (alike.kinds place).symm, alike.workingDirectory.symm⟩

theorem Alike.trans {one between other : FileSystem} (first : one.Alike between)
    (second : between.Alike other) : one.Alike other :=
  ⟨fun place => (second.kinds place).trans (first.kinds place),
    second.workingDirectory.trans first.workingDirectory⟩

theorem Alike.standing {one other : FileSystem} (alike : one.Alike other) (place : Place) :
    one.node? place = none ∧ other.node? place = none ∨
      one.node? place = some .directory ∧ other.node? place = some .directory ∨
      ∃ content another, one.node? place = some (.file content) ∧
        other.node? place = some (.file another) := by
  have kinds := alike.kinds place
  cases here : one.node? place with
  | none =>
    rw [here] at kinds
    exact .inl ⟨rfl, Option.map_eq_none_iff.mp kinds⟩
  | some node =>
    rw [here] at kinds
    obtain ⟨there, found, kind⟩ := Option.map_eq_some_iff.mp kinds
    cases node with
    | directory =>
      cases there with
      | directory => exact .inr (.inl ⟨rfl, found⟩)
      | file content => cases kind
    | file content =>
      cases there with
      | directory => cases kind
      | file another => exact .inr (.inr ⟨content, another, rfl, found⟩)

theorem Alike.walk {one other : FileSystem} (alike : one.Alike other) (place : Place)
    (names : List String) : other.walk place names = one.walk place names := by
  induction names generalizing place with
  | nil => rfl
  | cons name rest ih =>
    unfold FileSystem.walk
    rcases alike.standing place with ⟨here, too⟩ | ⟨here, too⟩ | ⟨_, _, here, too⟩
    · rw [here, too]
    · rw [here, too]
      simp only [ih]
    · rw [here, too]

theorem Alike.locate {one other : FileSystem} (alike : one.Alike other) (path : String) :
    other.locate path = one.locate path := by
  unfold FileSystem.locate
  rw [alike.workingDirectory]
  simp only [alike.walk]

theorem Alike.put {one other : FileSystem} (alike : one.Alike other) (place : Place)
    (content another : ByteArray) :
    (one.put place (.file content)).Alike (other.put place (.file another)) := by
  refine ⟨?_, alike.workingDirectory⟩
  intro p
  rw [nodePut, nodePut]
  split
  · rfl
  · split
    · rfl
    · exact alike.kinds p

theorem appendAlike (fs : FileSystem) (place : Place) (bytes : ByteArray) :
    fs.Alike (fs.append place bytes) := by
  unfold append
  split
  · rename_i content found
    refine ⟨?_, rfl⟩
    intro p
    rw [nodePut]
    split
    · rename_i root
      rw [root, nodeRoot]
    · split
      · rename_i here
        rw [here, found]
        rfl
      · rfl
  · exact alikeItself fs

theorem openFileStages (fs : FileSystem) (path : String) :
    fs.openFile path =
      match fs.locate path with
      | .error fault => .error fault
      | .ok place =>
        if asksDirectory path then .error .isDirectory
        else match fs.node? place with
          | some .directory => .error .isDirectory
          | some (.file _) => .ok (place, fs)
          | none => .ok (place, fs.put place (.file .empty)) := by
  unfold openFile
  cases fs.locate path with
  | error fault => rfl
  | ok place =>
    cases asksDirectory path with
    | true => rfl
    | false =>
      cases fs.node? place with
      | none => rfl
      | some node => cases node <;> rfl

theorem Alike.openFile {one other : FileSystem} (alike : one.Alike other) (path : String) :
    (∃ fault, one.openFile path = .error fault ∧ other.openFile path = .error fault) ∨
      ∃ place files filesToo, one.openFile path = .ok (place, files) ∧
        other.openFile path = .ok (place, filesToo) ∧ files.Alike filesToo := by
  rw [openFileStages, openFileStages, alike.locate]
  cases one.locate path with
  | error fault => exact .inl ⟨fault, rfl, rfl⟩
  | ok place =>
    cases asksDirectory path with
    | true => exact .inl ⟨.isDirectory, rfl, rfl⟩
    | false =>
      rcases alike.standing place with ⟨here, too⟩ | ⟨here, too⟩ | ⟨_, _, here, too⟩
      · simp only [here, too]
        exact .inr ⟨place, _, _, rfl, rfl, alike.put place .empty .empty⟩
      · simp only [here, too]
        exact .inl ⟨.isDirectory, rfl, rfl⟩
      · simp only [here, too]
        exact .inr ⟨place, one, other, rfl, rfl, alike⟩

end FileSystem

theorem Context.openSinkAlike {one other : FileSystem} (alike : one.Alike other) (root : Level)
    (path : Option String) :
    (∃ fault, openSink one root path = .error fault ∧ openSink other root path = .error fault) ∨
      ∃ sink files filesToo, openSink one root path = .ok (sink, files) ∧
        openSink other root path = .ok (sink, filesToo) ∧ files.Alike filesToo := by
  unfold openSink
  split
  · exact .inr ⟨.discard, one, other, rfl, rfl, alike⟩
  · exact .inr ⟨.errorStream, one, other, rfl, rfl, alike⟩
  · rename_i path _
    rcases alike.openFile path with
      ⟨fault, closed, closedToo⟩ | ⟨place, files, filesToo, opened, openedToo, same⟩
    · rw [closed, closedToo]
      exact .inl ⟨fault, rfl, rfl⟩
    · rw [opened, openedToo]
      exact .inr ⟨.file place, files, filesToo, rfl, rfl, same⟩

end LeveledLogging
