import LeveledLogging.FileSystem
import LeveledLogging.Entries
import LeveledLogging.Proofs.Results
/-! What writing does to files: one place changes and every other place stays. `content?` is the view
of a file system that the statements about output use. -/
namespace LeveledLogging

theorem readUTF8 (s : String) : String.fromUTF8? s.toUTF8 = some s := dif_pos s.isValidUTF8

namespace FileSystem

def content? (fs : FileSystem) (place : Place) : Option ByteArray :=
  match fs.node? place with
  | some (.file content) => some content
  | _ => none

theorem contentSome {fs : FileSystem} {place content} :
    fs.content? place = some content ↔ fs.node? place = some (.file content) := by
  unfold content?
  split
  · rename_i found
    rw [found]
    simp
  · rename_i other
    constructor
    · intro h
      contradiction
    · intro h
      exact absurd h (other content)

theorem lookupPut (place p : Place) (node : FileNode) (nodes : List (Place × FileNode)) :
    (put.go place node nodes).lookup p = if p = place then some node else nodes.lookup p := by
  induction nodes with
  | nil => simp [put.go, lookupCons, eq_comm]
  | cons entry rest ih =>
    rw [put.go, lookupCons]
    split
    · rename_i here
      rw [lookupCons, here]
      simp only [eq_comm]
      split <;> rfl
    · rename_i elsewhere
      rw [lookupCons, ih]
      by_cases found : p = place
      · simp [found, elsewhere]
      · simp [found]

theorem nodePut (fs : FileSystem) (place p : Place) (node : FileNode) :
    (fs.put place node).node? p =
      if p = [] then some .directory else if p = place then some node else fs.node? p := by
  unfold node?
  by_cases root : p = []
  · rw [if_pos root, if_pos root]
  · rw [if_neg root, if_neg root, if_neg root]
    exact lookupPut place p node fs.nodes

theorem nodeRoot (fs : FileSystem) : fs.node? [] = some .directory := rfl

theorem contentPut {place : Place} (inside : place ≠ []) (fs : FileSystem) (content : ByteArray)
    (p : Place) :
    (fs.put place (.file content)).content? p =
      if p = place then some content else fs.content? p := by
  unfold content?
  rw [nodePut]
  by_cases root : p = []
  · subst root
    simp [nodeRoot, Ne.symm inside]
  · rw [if_neg root]
    by_cases same : p = place <;> simp [same]

theorem placeOfFile {fs : FileSystem} {place content} (found : fs.content? place = some content) :
    place ≠ [] := by
  rintro rfl
  cases contentSome.mp found

theorem appendFile {fs : FileSystem} {place content} (found : fs.content? place = some content)
    (bytes : ByteArray) : fs.append place bytes = fs.put place (.file (content ++ bytes)) := by
  rw [append, contentSome.mp found]

theorem appendMissing {fs : FileSystem} {place} (missing : fs.content? place = none)
    (bytes : ByteArray) : fs.append place bytes = fs := by
  unfold append
  split
  · rename_i found
    cases (contentSome.mpr found).symm.trans missing
  · rfl

theorem contentAppend {fs : FileSystem} {place content} (found : fs.content? place = some content)
    (bytes : ByteArray) (p : Place) :
    (fs.append place bytes).content? p =
      if p = place then some (content ++ bytes) else fs.content? p := by
  rw [appendFile found, contentPut (placeOfFile found)]

theorem nodeAppend {fs : FileSystem} {place p : Place} (other : p ≠ place) (bytes : ByteArray) :
    (fs.append place bytes).node? p = fs.node? p := by
  unfold append
  split
  · rw [nodePut]
    split
    · rename_i root
      rw [root, nodeRoot]
    · rfl
  · rfl

theorem workingDirectoryAppend (fs : FileSystem) (place : Place) (bytes : ByteArray) :
    (fs.append place bytes).workingDirectory = fs.workingDirectory := by
  unfold append
  split <;> rfl

theorem openedFile {fs after : FileSystem} {path place}
    (opened : fs.openFile path = .ok (place, after)) :
    fs.locate path = .ok place ∧
      ((fs.content? place).isSome ∧ after = fs ∨
        fs.node? place = none ∧ after = fs.put place (.file .empty)) := by
  obtain ⟨found, located, opened⟩ := bindOk.mp opened
  dsimp only at opened
  split at opened
  · contradiction
  · split at opened
    · contradiction
    · rename_i content there
      cases opened
      exact ⟨located, .inl ⟨by rw [contentSome.mpr there]; rfl, rfl⟩⟩
    · rename_i missing
      cases opened
      exact ⟨located, .inr ⟨missing, rfl⟩⟩

theorem openedContent {fs after : FileSystem} {path place}
    (opened : fs.openFile path = .ok (place, after)) (p : Place) :
    after.content? p =
      if p = place then some ((fs.content? place).getD .empty) else fs.content? p := by
  obtain ⟨_, ⟨there, rfl⟩ | ⟨missing, rfl⟩⟩ := openedFile opened
  · obtain ⟨content, found⟩ := Option.isSome_iff_exists.mp there
    split
    · rename_i same
      rw [same, found]
      rfl
    · rfl
  · have inside : place ≠ [] := by
      rintro rfl
      cases missing
    rw [contentPut inside]
    simp [content?, missing]

structure KeepsWays (before after : FileSystem) : Prop where
  directories : ∀ place, before.node? place = some .directory → after.node? place = some .directory
  workingDirectory : after.workingDirectory = before.workingDirectory

theorem keepsAll (fs : FileSystem) : KeepsWays fs fs := ⟨fun _ there => there, rfl⟩

theorem KeepsWays.trans {before between after : FileSystem} (first : KeepsWays before between)
    (second : KeepsWays between after) : KeepsWays before after where
  directories place there := second.directories place (first.directories place there)
  workingDirectory := second.workingDirectory.trans first.workingDirectory

theorem KeepsWays.walk {before after : FileSystem} (kept : KeepsWays before after)
    {place : Place} {names : List String} {found : Place}
    (walked : before.walk place names = .ok found) : after.walk place names = .ok found := by
  induction names generalizing place with
  | nil => exact walked
  | cons name rest ih =>
    unfold FileSystem.walk at walked ⊢
    cases here : before.node? place with
    | none => simp [here] at walked
    | some node =>
      cases node with
      | file content => simp [here] at walked
      | directory =>
        simp only [here] at walked
        simp only [kept.directories place here]
        split at walked
        · rename_i same
          rw [if_pos same]
          exact ih walked
        · rename_i other
          rw [if_neg other]
          split at walked
          · rename_i up
            rw [if_pos up]
            exact ih walked
          · rename_i down
            rw [if_neg down]
            split at walked
            · contradiction
            · rename_i short
              rw [if_neg short]
              exact ih walked

theorem KeepsWays.locate {before after : FileSystem} (kept : KeepsWays before after)
    {path : String} {place : Place} (found : before.locate path = .ok place) :
    after.locate path = .ok place := by
  unfold FileSystem.locate at found ⊢
  rw [kept.workingDirectory]
  split at found
  · contradiction
  · rename_i plain
    rw [if_neg plain]
    split at found
    · contradiction
    · rename_i visible
      rw [if_neg visible]
      split at found
      · contradiction
      · rename_i short
        rw [if_neg short]
        exact kept.walk found

theorem keepsPut {fs : FileSystem} {place : Place} (other : fs.node? place ≠ some .directory)
    (node : FileNode) : KeepsWays fs (fs.put place node) := by
  refine ⟨?_, rfl⟩
  intro p there
  rw [nodePut]
  split
  · rfl
  · rw [if_neg]
    · exact there
    · rintro rfl
      exact other there

theorem openedKeepsWays {fs after : FileSystem} {path place}
    (opened : fs.openFile path = .ok (place, after)) : KeepsWays fs after := by
  obtain ⟨_, ⟨_, rfl⟩ | ⟨missing, rfl⟩⟩ := openedFile opened
  · exact keepsAll _
  · exact keepsPut (by simp [missing]) _

structure AddsDirectories (before after : FileSystem) : Prop where
  contents : ∀ place, after.content? place = before.content? place
  ways : KeepsWays before after

theorem addsNone (fs : FileSystem) : AddsDirectories fs fs := ⟨fun _ => rfl, keepsAll fs⟩

theorem AddsDirectories.trans {before between after : FileSystem}
    (first : AddsDirectories before between) (second : AddsDirectories between after) :
    AddsDirectories before after where
  contents place := (second.contents place).trans (first.contents place)
  ways := first.ways.trans second.ways

theorem makeDirectoryAdds {fs after : FileSystem} {path}
    (made : fs.makeDirectory path = .ok after) : AddsDirectories fs after := by
  obtain ⟨place, _, made⟩ := bindOk.mp made
  split at made
  · contradiction
  · rename_i missing
    cases made
    refine ⟨?_, keepsPut (by simp [missing]) _⟩
    intro p
    unfold content?
    rw [nodePut]
    by_cases root : p = []
    · rw [if_pos root, root, nodeRoot]
    · rw [if_neg root]
      by_cases same : p = place
      · rw [if_pos same, same, missing]
      · rw [if_neg same]

theorem ensureDirectoryAdds (fs : FileSystem) (path : String) :
    AddsDirectories fs (fs.ensureDirectory path).2 := by
  unfold ensureDirectory
  split
  · rename_i made
    exact makeDirectoryAdds made
  · exact addsNone fs

theorem makeLineageAdds (fs : FileSystem) (paths : List String) :
    AddsDirectories fs (fs.makeLineage paths).2 := by
  induction paths generalizing fs with
  | nil => exact addsNone fs
  | cons path parents ih =>
    unfold makeLineage
    split
    · exact addsNone fs
    · split
      · have above := ih fs
        split
        · rename_i made
          rw [made] at above
          exact above.trans (ensureDirectoryAdds _ path)
        · exact above
      · exact ensureDirectoryAdds fs path

end FileSystem

end LeveledLogging
