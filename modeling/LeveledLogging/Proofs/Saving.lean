import LeveledLogging.Document
import LeveledLogging.Proofs.Expansion
import LeveledLogging.Proofs.Files
import LeveledLogging.Proofs.Refusals
/-! Configurations that are saved and loaded again. The file holds what all layers come to, and that is
the only layer when it is loaded. The environment lies on top of it a second time then, which changes
nothing (`savedLoadsAgain`). -/
namespace LeveledLogging

namespace FileSystem

structure Stores (fs : FileSystem) (path : String) (bytes : ByteArray) : Prop where
  file : asksDirectory path = false
  found : ∃ place, fs.locate path = .ok place ∧ fs.content? place = some bytes

theorem putSame {place : Place} {node : FileNode} {nodes : List (Place × FileNode)}
    (found : nodes.lookup place = some node) : put.go place node nodes = nodes := by
  induction nodes with
  | nil => cases found
  | cons entry rest ih =>
    rw [lookupCons] at found
    rw [put.go]
    split at found
    · rename_i here
      cases found
      rw [if_pos here]
    · rename_i elsewhere
      rw [if_neg elsewhere, ih found]

theorem openedAsks {fs after : FileSystem} {path : String} {place : Place}
    (opened : fs.openFile path = .ok (place, after)) : asksDirectory path = false := by
  obtain ⟨_, _, opened⟩ := bindOk.mp opened
  dsimp only at opened
  split at opened
  · contradiction
  · rename_i file
    exact eq_false_of_ne_true file

theorem writeStores {fs after : FileSystem} {path : String} {bytes : ByteArray}
    (written : fs.write path bytes = .ok after) : after.Stores path bytes := by
  obtain ⟨⟨place, between⟩, opened, same⟩ := bindOk.mp written
  cases same
  have content := openedContent opened place
  rw [if_pos rfl] at content
  have inside := placeOfFile content
  have kept : KeepsWays fs (between.put place (.file bytes)) :=
    (openedKeepsWays opened).trans (keepsPut (by simp [contentSome.mp content]) _)
  refine ⟨openedAsks opened, place, kept.locate (openedFile opened).1, ?_⟩
  rw [contentPut inside, if_pos rfl]

theorem Stores.find {fs : FileSystem} {path : String} {bytes : ByteArray}
    (stored : fs.Stores path bytes) : fs.find path = .ok (.file bytes) := by
  obtain ⟨file, place, located, content⟩ := stored
  refine bindOk.mpr ⟨place, located, ?_⟩
  simp only [contentSome.mp content, file]
  rfl

theorem Stores.readText {fs : FileSystem} {path text : String}
    (stored : fs.Stores path text.toUTF8) : fs.readText path = .ok text := by
  have read : fs.read path = .ok text.toUTF8 := bindOk.mpr ⟨_, stored.find, rfl⟩
  refine bindOk.mpr ⟨_, read, ?_⟩
  rw [readUTF8]
  rfl

theorem Stores.write {fs : FileSystem} {path : String} {bytes : ByteArray}
    (stored : fs.Stores path bytes) : fs.write path bytes = .ok fs := by
  obtain ⟨file, place, located, content⟩ := stored
  have node := contentSome.mp content
  have opened : fs.openFile path = .ok (place, fs) := by
    refine bindOk.mpr ⟨place, located, ?_⟩
    simp only [node, file]
    rfl
  refine bindOk.mpr ⟨(place, fs), opened, ?_⟩
  rw [node?, if_neg (placeOfFile content)] at node
  exact congrArg (fun nodes => Except.ok { fs with nodes }) (putSame node)

end FileSystem

namespace Document

theorem notNullIff {document : Document} : document.isNull = false ↔ document ≠ null := by
  cases document <;> simp [isNull]

theorem putNotNull {parts : List String} (some : parts ≠ []) (value document : Document) :
    put parts value document ≠ null := by
  cases parts with
  | nil => contradiction
  | cons part rest => simp [put]

theorem mergeNotNull {below top : Document} (notNull : top ≠ null) : merge below top ≠ null := by
  cases kind : below.isObject with
  | false => rwa [mergeReplaces (notObjectIff.mp kind)]
  | true =>
    obtain ⟨members, rfl⟩ := isObjectIff.mp kind
    cases top with
    | object top => simp [mergeObjects]
    | _ => rwa [mergeHides (by simp)]

end Document

namespace Config

def NotNull (config : Config) : Prop := ∀ layer, config.layer layer ≠ some .null

theorem withLayerNotNull {config : Config} (notNull : config.NotNull) (layer : Layer)
    {document : Option OrderedDocument}
    (given : document.map OrderedDocument.document ≠ some .null) :
    (config.withLayer layer document).NotNull := by
  intro other
  rw [layerWithLayer]
  split
  · exact given
  · exact notNull other

theorem setInNotNull {config : Config} (notNull : config.NotNull) (layer : Layer) (key : String)
    (value : OrderedDocument) : (config.setIn layer key value).2.NotNull := by
  rcases setInCases config layer key value with ⟨_, done⟩ | ⟨_, refused⟩
  · have put := Document.putNotNull (Text.splitNonempty '.' key) value.document
      ((config.stored layer).getD .empty).document
    rw [done]
    exact withLayerNotNull notNull layer fun null => put (Option.some.inj null)
  · rw [refused]
    refine withLayerNotNull notNull layer ?_
    rw [Option.map_some, storedDocument]
    cases found : config.layer layer with
    | none => simp [Document.empty]
    | some document =>
      rintro same
      exact notNull layer (found.trans same)

theorem loadNotNull {home : Option String} {files : FileSystem} {path : String} {config : Config}
    (done : load home files path = .ok config) : config.NotNull := by
  obtain ⟨loaded, rfl, read⟩ := loadLoaded done
  intro layer
  cases layer with
  | loaded =>
    intro null
    obtain ⟨document, there, same⟩ := Option.map_eq_some_iff.mp null
    exact Document.notNullIff.mp (read document there).1 same
  | _ => exact nofun

theorem Reachable.notNull {config : Config} (reachable : config.Reachable) : config.NotNull := by
  induction reachable with
  | empty =>
    intro layer found
    cases layer <;> contradiction
  | load done => exact loadNotNull done
  | autoSave _ autoSave ih =>
    intro layer found
    refine ih layer ?_
    cases layer <;> exact found
  | setIn _ layer key value ih => exact setInNotNull ih layer key value
  | setValue _ files key _ _ ih =>
    exact setValueKeeps files key ih fun document _ => setInNotNull ih .set key document
  | @environment before _ _ _ done ih =>
    have blank : (before.withLayer .environment none).NotNull :=
      withLayerNotNull ih .environment (by simp)
    exact variablesKeep NotNull
      (fun _ key value kept => setInNotNull kept .environment key value) blank done

theorem mergeAllNotNull {layers : List Document} (notNull : ∀ layer ∈ layers, layer ≠ .null)
    {below : Document} (start : below ≠ .null) : layers.foldl .merge below ≠ .null := by
  induction layers generalizing below with
  | nil => exact start
  | cons top rest ih =>
    refine ih ?_ (Document.mergeNotNull (notNull top List.mem_cons_self))
    exact fun layer inside => notNull layer (List.mem_cons_of_mem _ inside)

theorem mergedNotNull {config : Config} (notNull : config.NotNull) : config.merged ≠ .null := by
  refine mergeAllNotNull ?_ (by simp [Document.empty])
  intro document inside
  obtain ⟨layer, _, found⟩ := List.mem_filterMap.mp inside
  rintro rfl
  exact notNull layer found

theorem mergedEnvironment (config : Config) :
    ∃ below : Document, below.Ordered ∧
      config.merged = (config.layer .environment).elim below (.merge below) := by
  refine ⟨_, mergedOrdered { config with environment := none }, ?_⟩
  rw [layer, stored]
  cases there : config.environment with
  | none =>
    obtain ⟨standard, loaded, set, environment, file, autoSave⟩ := config
    cases there
    rfl
  | some top =>
    have onTop : Layer.all.filterMap config.layer =
        Layer.all.filterMap ({ config with environment := none } : Config).layer ++
          [top.document] := by
      obtain ⟨standard, loaded, set, environment, file, autoSave⟩ := config
      cases there
      cases standard <;> cases loaded <;> cases set <;> rfl
    rw [merged, onTop, Document.mergeAllAppend]
    rfl

theorem setVariableBeside {config after other : Config} {entry : String × String}
    (done : config.setVariable entry = .ok after) (same : other.environment = config.environment) :
    other.setVariable entry = .ok { other with environment := after.environment } := by
  obtain ⟨said, read, done⟩ := bindOk.mp done
  refine bindOk.mpr ⟨said, read, ?_⟩
  cases said with
  | none =>
    cases done
    rw [← same]
    rfl
  | some pair =>
    obtain ⟨key, value⟩ := pair
    dsimp only at done ⊢
    rcases setInCases config .environment key value with ⟨complete, set⟩ | ⟨_, refused⟩
    · rcases setInCases other .environment key value with ⟨_, setToo⟩ | ⟨incomplete, _⟩
      · rw [set] at done
        cases done
        rw [setToo]
        simp only [stored, same]
        rfl
      · exact absurd incomplete complete
    · rw [refused] at done
      cases done

theorem setVariablesBeside {config after other : Config} {entries : List (String × String)}
    (done : entries.foldlM setVariable config = .ok after)
    (same : other.environment = config.environment) :
    entries.foldlM setVariable other = .ok { other with environment := after.environment } := by
  induction entries generalizing config other with
  | nil =>
    cases done
    rw [← same]
    rfl
  | cons entry rest ih =>
    rw [List.foldlM_cons] at done ⊢
    obtain ⟨between, first, done⟩ := bindOk.mp done
    exact bindOk.mpr ⟨_, setVariableBeside first same, ih done rfl⟩

theorem withEnvironmentBeside {config after : Config} {entries : List (String × String)}
    (done : config.withEnvironment entries = .ok after) (other : Config) :
    other.withEnvironment entries = .ok { other with environment := after.environment } := by
  have blank : ({ other with environment := none } : Config).environment = none := rfl
  exact setVariablesBeside done blank

theorem saveStores {config : Config} {files after : FileSystem} {path : String}
    (backed : config.file = some path) (done : config.save files = .ok after) :
    after.Stores path (Yaml.print config.merged).toUTF8 := by
  unfold save at done
  simp only [backed] at done
  split at done
  · rename_i written
    cases done
    exact FileSystem.writeStores written
  · cases done

theorem saveStored {config : Config} {files : FileSystem} {path : String}
    (backed : config.file = some path)
    (stored : files.Stores path (Yaml.print config.merged).toUTF8) : config.save files = .ok files := by
  unfold save
  simp only [backed, stored.write]

theorem loadStored {home : Option String} {files : FileSystem} {path text : String}
    {document : OrderedDocument} (stored : files.Stores (FilePath.expand home path) text.toUTF8)
    (reads : Yaml.readDocument text = some document) (notNull : document.isNull = false) :
    load home files path =
      .ok { empty with loaded := some document, file := some (FilePath.expand home path) } := by
  have present : files.contains (FilePath.expand home path) = true := by
    rw [FileSystem.contains, stored.find]
  have read : readDocument files (FilePath.expand home path) = .ok document := by
    unfold readDocument
    simp only [stored.readText, reads]
    rfl
  unfold load
  simp only [present, read, notNull]
  rfl

theorem savedLoadsAgain {config : Config} (reachable : config.Reachable) {home : Option String}
    (absolute : ∀ base ∈ home, FilePath.isAbsolute base = true) {path : String}
    (backed : config.file = some (FilePath.expand home path)) {before built : Config}
    {entries : List (String × String)} (environment : before.withEnvironment entries = .ok built)
    (onTop : config.environment = built.environment) {files saved : FileSystem}
    (done : config.save files = .ok saved)
    (reads : (Yaml.readDocument (Yaml.print config.merged)).map OrderedDocument.document =
      some config.merged) :
    ∃ loaded, load home saved (FilePath.expand home path) = .ok loaded ∧
      loaded.merged = config.merged ∧ loaded.settings home = config.settings home ∧
      loaded.save saved = .ok saved ∧
      ∃ again, loaded.withEnvironment entries = .ok again ∧
        again.merged = config.merged ∧ again.settings home = config.settings home ∧
        again.save saved = .ok saved := by
  have stored := saveStores backed done
  obtain ⟨document, reads, whole⟩ := Option.map_eq_some_iff.mp reads
  let loaded : Config :=
    { empty with loaded := some document, file := some (FilePath.expand home path) }
  let again : Config := { loaded with environment := built.environment }
  have single : loaded.merged = config.merged :=
    (Document.mergeEmpty document.ordered).trans whole
  have twice : again.merged = config.merged := by
    have upper : config.layer .environment = built.environment.map OrderedDocument.document :=
      congrArg _ onTop
    have laid : again.merged =
        (config.layer .environment).elim loaded.merged (.merge loaded.merged) := by
      simp only [again, upper]
      cases built.environment <;> rfl
    obtain ⟨below, inOrder, onto⟩ := mergedEnvironment config
    rw [laid, single]
    cases top : config.layer .environment with
    | none => rfl
    | some document =>
      rw [top] at onto
      rw [onto]
      exact Document.mergeAgain inOrder (ordered top)
  have solid : document.isNull = false :=
    Document.notNullIff.mpr (whole ▸ mergedNotNull reachable.notNull)
  have read : load home saved (FilePath.expand home path) = .ok loaded := by
    have same := FilePath.expandAgain absolute path
    rw [loadStored (same.symm ▸ stored) reads solid, same]
  have settingsSame : ∀ other : Config, other.merged = config.merged →
      other.settings home = config.settings home := by
    intro other same
    exact settingsFromSection (by rw [same]) home
  refine ⟨loaded, read, single, settingsSame _ single, saveStored rfl (single ▸ stored), again, ?_⟩
  exact ⟨withEnvironmentBeside environment loaded, twice, settingsSame _ twice,
    saveStored rfl (twice ▸ stored)⟩

theorem savedUnderVariable :
    let files : FileSystem := ⟨[(["home"], .directory)], []⟩
    let fresh : Config := { empty with file := some "/home/c.yml" }
    let below := ((fresh.setIn .loaded "log.trace" (.boolean true)).2.setIn .set "log.verbosity"
      (.integer 1)).2
    let entries := [("COMMONLOG_VERBOSITY", "2")]
    ∃ config saved loaded again, below.withEnvironment entries = .ok config ∧
      config.save files = .ok saved ∧ load (some "/home") saved "/home/c.yml" = .ok loaded ∧
      loaded.withEnvironment entries = .ok again ∧ again.merged = config.merged ∧
      again.save saved = .ok saved := by
  intro files fresh below entries
  have absolute : ∀ base ∈ some "/home", FilePath.isAbsolute base = true := by
    simpa using by decide
  have expanded : FilePath.expand (some "/home") "~/c.yml" = "/home/c.yml" := by decide +kernel
  have absent : files.contains "/home/c.yml" = false := by decide +kernel
  have made : load (some "/home") files "~/c.yml" = .ok fresh := by
    simp only [load, expanded, absent]
    rfl
  have reachable : below.Reachable :=
    .setIn (.setIn (.load made) .loaded _ (.boolean true)) .set _ (.integer 1)
  have trace : Text.split '.' "log.trace" = ["log", "trace"] := by decide
  have verbosity : Text.split '.' "log.verbosity" = ["log", "verbosity"] := by decide
  let config : Config :=
    { below with environment := some (.object (.ofList
      [("log", .object (.ofList [("verbosity", .integer 2)]))])) }
  have environment : below.withEnvironment entries = .ok config := by
    have number : Text.readInt32 (Text.trim "2") = some 2 := by decide +kernel
    have said : readVariable "COMMONLOG_VERBOSITY" "2" =
        .ok (some ("log.verbosity", .integer 2)) := by
      simp only [readVariable, verbosityVariable, if_pos, number]
      rfl
    have set : setVariable { below with environment := none } ("COMMONLOG_VERBOSITY", "2") =
        .ok config := by
      refine bindOk.mpr ⟨_, said, ?_⟩
      simp only [setIn, stored, Document.place, verbosity]
      rfl
    exact bindOk.mpr ⟨_, set, rfl⟩
  let whole : Document :=
    .object [("log", .object [("trace", .boolean true), ("verbosity", .integer 2)])]
  have merged : config.merged = whole := by
    simp only [config, below, fresh, setIn, Document.place, trace, verbosity]
    rfl
  have backed : config.file = some (FilePath.expand (some "/home") "~/c.yml") := by
    simp only [config, below, fresh, setIn, Document.place, trace, verbosity, expanded]
    rfl
  obtain ⟨saved, done⟩ : ∃ saved, config.save files = .ok saved := by
    simp only [save, backed, merged, expanded]
    have written : (files.write "/home/c.yml" (Yaml.print whole).toUTF8).toOption.isSome = true := by
      decide +kernel
    obtain ⟨saved, done⟩ := succeeds.mp written
    exact ⟨saved, by rw [done]⟩
  have reads : (Yaml.readDocument (Yaml.print whole)).map OrderedDocument.document = some whole := by
    decide +kernel
  obtain ⟨loaded, read, _, _, _, again, onTop, same, _, kept⟩ :=
    savedLoadsAgain (.environment reachable environment) absolute backed environment rfl done
      (merged ▸ reads)
  exact ⟨config, saved, loaded, again, environment, done, expanded ▸ read, onTop, same, kept⟩

end Config

end LeveledLogging
