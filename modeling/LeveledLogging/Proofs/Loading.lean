import LeveledLogging.Proofs.Layers
import LeveledLogging.Proofs.Names
/-! Settings from a file and the environment. `FileSettings` says what a file comes to on its own, and
`loadSettingsOver` what is loaded when accepted variables are laid over it. -/
namespace LeveledLogging

namespace Settings

def WellNamed (settings : Settings) : Prop :=
  ∀ key ∈ settings.levels.keys, ∃ name, LoggerName.read key = .ok name

theorem overridesIff {settings : Settings} {overrides : List (LoggerName × Level)} :
    settings.overrides = .ok overrides ↔
      settings.levels = overrides.map fun setting => (setting.1.dotted, setting.2) := by
  rw [Settings.overrides, mapMOk]
  generalize settings.levels = levels
  constructor
  · intro related
    induction related with
    | nil => rfl
    | @cons entry setting levels overrides here _ ih =>
      obtain ⟨name, read, same⟩ := returnOk.mp here
      cases same
      rw [List.map_cons, ← ih, LoggerName.dottedOfRead read]
  · rintro rfl
    induction overrides with
    | nil => exact .nil
    | cons setting rest ih =>
      refine .cons ?_ ih
      exact returnOk.mpr ⟨setting.1, LoggerName.readDotted setting.1, rfl⟩

theorem overridesOk {settings : Settings} (named : settings.WellNamed) :
    ∃ overrides, settings.overrides = .ok overrides := by
  refine mapMTotal ?_
  rintro ⟨key, level⟩ inside
  obtain ⟨name, read⟩ := named key (List.mem_map.mpr ⟨_, inside, rfl⟩)
  exact ⟨(name, level), returnOk.mpr ⟨name, read, rfl⟩⟩

theorem namedOver {settings below : Settings} {directives : List (String × Level)}
    (found : ∀ key, settings.levels.find? key = (lastOf directives key).or (below.levels.find? key))
    (top : ∀ pair ∈ directives, ∃ name, LoggerName.read pair.1 = .ok name)
    (bottom : below.WellNamed) : settings.WellNamed := by
  intro key inside
  have there : settings.levels.find? key ≠ none := fun absent => Entries.findNone.mp absent inside
  rw [found] at there
  cases directive : lastOf directives key with
  | some level => exact top (key, level) (lastOfMember directive)
  | none =>
    rw [directive, Option.none_or] at there
    refine bottom key ?_
    by_contra absent
    exact there (Entries.findNone.mpr absent)

end Settings

namespace Config

/- The document that is loaded for a path. The path is expanded once to look for the file and once
more to read it, which makes a difference only under a home directory that is not absolute. -/
def FileHolds (home : Option String) (files : FileSystem) (path : String) (document : Document) :
    Prop :=
  files.contains (FilePath.expand home path) = true ∧
    ∃ stored, readDocument files (FilePath.expand home (FilePath.expand home path)) = .ok stored ∧
      stored.document = document

inductive FileSettings (home : Option String) (files : FileSystem) :
    Option String → Settings → Prop where
  | none : FileSettings home files none .standard
  | empty {path} (holds : FileHolds home files path .null) :
    FileSettings home files (some path) .standard
  | other {path members} (holds : FileHolds home files path (.object members))
      (absent : Entries.find? "log" members = none) :
    FileSettings home files (some path) .standard
  | given {path members fields settings} (holds : FileHolds home files path (.object members))
      (present : Entries.find? "log" members = some (.object fields))
      (decoded : Settings.ofDocument (.object fields) = .ok settings)
      (named : settings.WellNamed) :
    FileSettings home files (some path) settings

theorem FileSettings.filled {home : Option String} {files : FileSystem} {path : String}
    {document part : Document} {settings : Settings}
    (holds : FileHolds home files path document) (present : document.member? "log" = some part)
    (filled : part.members.isEmpty = false) (decoded : Settings.ofDocument part = .ok settings)
    (named : settings.WellNamed) : FileSettings home files (some path) settings := by
  cases document with
  | object members =>
    cases part with
    | object fields => exact .given holds present decoded named
    | _ => contradiction
  | _ => contradiction

def ofFile (home : Option String) (files : FileSystem) (path : Option String) :
    Except LogError Config :=
  match path with
  | none => .ok empty
  | some path =>
    let expanded := FilePath.expand home path
    if !files.contains expanded then .error (.config (.missingFile expanded))
    else load home files expanded

theorem loadSettingsStages (home : Option String) (files : FileSystem) (path : Option String)
    (entries : List (String × String)) :
    loadSettings home files path entries =
      (ofFile home files path >>= fun config => config.withEnvironment entries) >>=
        fun config => config.settings home := by
  unfold loadSettings ofFile
  cases path with
  | none => rfl
  | some path =>
    dsimp only
    split
    · rfl
    · cases load home files (FilePath.expand home path) <;> rfl

theorem readContains {files : FileSystem} {path : String} {document : OrderedDocument}
    (read : readDocument files path = .ok document) : files.contains path = true := by
  unfold FileSystem.contains
  cases found : files.find path with
  | ok node => rfl
  | error fault => simp [readDocument, FileSystem.readText, FileSystem.read, found, bind,
      Except.bind, throw, throwThe, MonadExceptOf.throw] at read

theorem ofFileHolds {home : Option String} {files : FileSystem} {path : String}
    {document : Document} (holds : FileHolds home files path document) :
    ∃ origin stored, stored.document = document ∧ ofFile home files (some path) = .ok { empty with
      loaded := if document.isNull then none else some stored
      file := origin } := by
  obtain ⟨there, stored, read, rfl⟩ := holds
  refine ⟨some (FilePath.expand home (FilePath.expand home path)), stored, rfl, ?_⟩
  simp only [ofFile, there, load, readContains read, read]
  rfl

theorem ofFileSection {home : Option String} {files : FileSystem} {path : Option String}
    {settings : Settings} (file : FileSettings home files path settings) :
    ∃ loaded origin fields, ofFile home files path = .ok { empty with loaded, file := origin } ∧
      (∀ document ∈ loaded.map OrderedDocument.document, ∃ members : Entries Document,
        document = .object members ∧ members.keys.Nodup) ∧
      Document.Holds ((loaded.map OrderedDocument.document).bind (Document.member? "log")) fields ∧
      (Document.object fields).Ordered ∧ Settings.Takes fields .standard settings ∧
      settings.WellNamed := by
  have standard : Settings.Takes [] .standard .standard := ⟨rfl, rfl, rfl, rfl, rfl⟩
  have unnamed : Settings.standard.WellNamed := by
    intro key inside
    contradiction
  cases file with
  | none =>
    exact ⟨none, none, [], rfl, by simp, .absent, Document.emptyOrdered, standard, unnamed⟩
  | empty holds =>
    obtain ⟨origin, _, _, opened⟩ := ofFileHolds holds
    exact ⟨none, origin, [], opened, by simp, .absent, Document.emptyOrdered, standard, unnamed⟩
  | other holds absent =>
    rename_i members
    obtain ⟨origin, stored, same, opened⟩ := ofFileHolds holds
    have ordered := same ▸ stored.ordered
    cases ordered with
    | object ascending inside =>
      refine ⟨some stored, origin, [], opened, ?_, ?_, Document.emptyOrdered, standard, unnamed⟩
      · rintro document ⟨⟩
        exact ⟨members, same, ascending.nodup⟩
      · rw [Option.map_some, same, Option.bind_some, Document.member?, absent]
        exact .absent
  | given holds present decoded named =>
    rename_i members fields
    obtain ⟨origin, stored, same, opened⟩ := ofFileHolds holds
    have whole := same ▸ stored.ordered
    cases whole with
    | object ascending inside =>
      have ordered : (Document.object fields).Ordered :=
        inside _ (Entries.findSomeMember present)
      have takes : Settings.Takes fields .standard settings := by
        cases ordered with
        | object inOrder _ => exact (Settings.ofObjectTakes inOrder.nodup).mp decoded
      refine ⟨some stored, origin, fields, opened, ?_, ?_, ordered, takes, named⟩
      · rintro document ⟨⟩
        exact ⟨members, same, ascending.nodup⟩
      · rw [Option.map_some, same, Option.bind_some, Document.member?, present]
        exact .given fields

theorem sayingsHold (saids : List (String × Document)) :
    Document.Holds ((sayings saids).bind (Document.member? "log")) (Entries.ofList saids) ∧
      ∀ document ∈ sayings saids, ∃ members : Entries Document,
        document = .object members ∧ members.keys.Nodup := by
  cases saids with
  | nil => exact ⟨.absent, by simp [sayings]⟩
  | cons first rest =>
    refine ⟨.given (Entries.ofList (first :: rest)), ?_⟩
    rintro document ⟨⟩
    exact ⟨_, rfl, List.pairwise_singleton _ _⟩

theorem mergedMember {loaded environment : Option OrderedDocument} {origin : Option String}
    (objects : ∀ document ∈ loaded.map OrderedDocument.document, ∃ members : Entries Document,
      document = .object members ∧ members.keys.Nodup)
    (laid : ∀ document ∈ environment.map OrderedDocument.document, ∃ members : Entries Document,
      document = .object members ∧ members.keys.Nodup) (key : String) :
    ({ empty with loaded, environment, file := origin } : Config).merged.member? key =
      Document.stack ((loaded.map OrderedDocument.document).bind (Document.member? key))
        ((environment.map OrderedDocument.document).bind (Document.member? key)) := by
  have layers : Layer.all.filterMap
      ({ empty with loaded, environment, file := origin } : Config).layer =
        (loaded.map OrderedDocument.document).toList ++
          (environment.map OrderedDocument.document).toList := by
    cases loaded <;> cases environment <;> rfl
  rw [merged, layers, Document.memberMergeAll]
  · cases loaded <;> cases environment <;> simp [Document.stackNothing, Document.stackMissing]
  · intro document inside
    rcases List.mem_append.mp inside with inside | inside
    · exact objects document (Option.mem_toList.mp inside)
    · exact laid document (Option.mem_toList.mp inside)

theorem asInt32Integer (n : Int32) : Document.asInt32 (.integer n.toInt) = .ok n := by
  have inside : Int32.minValue.toInt ≤ n.toInt ∧ n.toInt ≤ Int32.maxValue.toInt :=
    ⟨n.minValue_le_toInt, n.toInt_le⟩
  rw [Document.asInt32, Document.asInteger, if_pos inside]
  exact congrArg Except.ok (Int32.ofInt_toInt n)

variable {entries : List (String × String)} {saids : List (String × Document)}
variable (related : Said entries saids)

include related

theorem verbosityTaken (otherwise : Int32) :
    Taken Document.asInt32 otherwise (lastOf saids "verbosity")
      ((environmentVerbosity entries).getD otherwise) := by
  have own := related.last verbosityVariable "verbosity" (by simp [variableFields])
  unfold environmentVerbosity
  generalize lastOf entries verbosityVariable = value at own ⊢
  generalize lastOf saids "verbosity" = said at own ⊢
  cases own with
  | none => rfl
  | some saying =>
    obtain ⟨n, read, rfl⟩ := saysVerbosity saying
    rw [Option.bind_some, read]
    exact asInt32Integer n

theorem pathTaken (otherwise : Option String) :
    ∃ path, Taken (Document.asOptional Document.asPath) otherwise (lastOf saids "path") path := by
  have own := related.last pathVariable "path" (by simp [variableFields])
  generalize lastOf entries pathVariable = value at own
  generalize lastOf saids "path" = said at own ⊢
  cases own with
  | none => exact ⟨otherwise, rfl⟩
  | some saying =>
    rw [saysPath saying]
    exact ⟨_, rfl⟩

theorem traceTaken (otherwise : Bool) :
    ∃ trace, Taken Document.asBoolean otherwise (lastOf saids "trace") trace := by
  have own := related.last traceVariable "trace" (by simp [variableFields])
  generalize lastOf entries traceVariable = value at own
  generalize lastOf saids "trace" = said at own ⊢
  cases own with
  | none => exact ⟨otherwise, rfl⟩
  | some saying =>
    obtain ⟨b, rfl⟩ := saysTrace saying
    exact ⟨b, rfl⟩

theorem levelsSaid :
    (lastOf saids "levels" = none ∧ environmentDirectives entries = []) ∨
      lastOf saids "levels" = some (levelsDocument (environmentDirectives entries)) := by
  have own := related.last levelsVariable "levels" (by simp [variableFields])
  unfold environmentDirectives
  generalize lastOf entries levelsVariable = value at own ⊢
  generalize lastOf saids "levels" = said at own ⊢
  cases own with
  | none => exact .inl ⟨rfl, rfl⟩
  | some saying =>
    obtain ⟨pairs, read, rfl⟩ := saysLevels saying
    rw [Option.map_some, Option.getD_some, Directives.listedOk read]
    exact .inr rfl

theorem saidSingle {name field : String} (paired : (name, field) ∈ variableFields)
    (other : field ≠ "levels") :
    ∀ document ∈ lastOf saids field, ∀ members, document ≠ .object members := by
  have own := related.last name field paired
  generalize lastOf entries name = value at own
  generalize lastOf saids field = said at own ⊢
  cases own with
  | none => simp
  | @some value document saying =>
    rintro document ⟨⟩ members same
    cases saying with
    | levels _ _ => exact other rfl
    | _ => cases same

theorem formatUnsaid : lastOf saids "format" = none := by
  refine lastOfNone.mpr ?_
  intro inside
  obtain ⟨pair, there, same⟩ := List.mem_map.mp inside
  have known := related.known pair there
  rw [same] at known
  revert known
  decide

theorem settingsOver {fields merged : Entries Document} {file : Settings}
    (ordered : (Document.object fields).Ordered) (takes : Settings.Takes fields .standard file)
    (laid : ∀ key, merged.find? key = Document.stack (fields.find? key) (lastOf saids key)) :
    ∃ settings, Settings.Takes merged .standard settings ∧
      settings.verbosity = (environmentVerbosity entries).getD file.verbosity ∧
      ∀ key, settings.levels.find? key =
        (lastOf (environmentDirectives entries) key).or (file.levels.find? key) := by
  obtain ⟨path, pathSaid⟩ := pathTaken related file.path
  obtain ⟨trace, traceSaid⟩ := traceTaken related file.trace
  have levelsOrdered : ∀ document ∈ fields.find? "levels", document.Ordered := by
    cases ordered with
    | object _ inside => exact fun _ found => inside _ (Entries.findSomeMember found)
  obtain ⟨levels, levelsLaid, found⟩ : ∃ levels,
      Taken Document.asLevels .empty (merged.find? "levels") levels ∧
      ∀ key, levels.entries.find? key =
        (lastOf (environmentDirectives entries) key).or (file.levels.find? key) := by
    rw [laid]
    rcases levelsSaid related with ⟨unsaid, nothing⟩ | said
    · rw [unsaid, nothing, Document.stackMissing]
      exact ⟨file.table, takes.levels, fun _ => rfl⟩
    · rw [said]
      exact levelsOver takes.levels levelsOrdered _
  refine ⟨⟨(environmentVerbosity entries).getD file.verbosity, path, trace, file.format, levels⟩,
    ⟨?_, ?_, ?_, ?_, levelsLaid⟩, rfl, found⟩
  · rw [laid]
    have paired : (verbosityVariable, "verbosity") ∈ variableFields := by simp [variableFields]
    exact takenOver takes.verbosity (verbosityTaken related _)
      (saidSingle related paired (by decide))
  · rw [laid]
    have paired : (pathVariable, "path") ∈ variableFields := by simp [variableFields]
    exact takenOver takes.path pathSaid (saidSingle related paired (by decide))
  · rw [laid]
    have paired : (traceVariable, "trace") ∈ variableFields := by simp [variableFields]
    exact takenOver takes.trace traceSaid (saidSingle related paired (by decide))
  · rw [laid, formatUnsaid related, Document.stackMissing]
    exact takes.format

omit related

theorem environmentNamed : ∀ pair ∈ environmentDirectives entries,
    ∃ name, LoggerName.read pair.1 = .ok name := by
  intro pair inside
  unfold environmentDirectives at inside
  cases found : lastOf entries levelsVariable with
  | none =>
    rw [found] at inside
    contradiction
  | some value =>
    rw [found] at inside
    exact Directives.listedNamed pair inside

theorem loadSettingsOver {home : Option String} {files : FileSystem} {path : Option String}
    {file : Settings} (source : FileSettings home files path file)
    (accepted : ∀ entry ∈ entries, Accepted entry) :
    ∃ settings, loadSettings home files path entries = .ok settings ∧
      settings.verbosity = (environmentVerbosity entries).getD file.verbosity ∧
      settings.WellNamed ∧
      ∀ key, settings.levels.find? key =
        (lastOf (environmentDirectives entries) key).or (file.levels.find? key) := by
  obtain ⟨loaded, origin, fields, opened, objects, holds, ordered, takes, named⟩ :=
    ofFileSection source
  obtain ⟨saids, layer, related, extended, makes⟩ :=
    withEnvironmentSays { empty with loaded, file := origin } accepted
  obtain ⟨sayingsHolds, laidObjects⟩ := sayingsHold saids
  have inOrder : Entries.Ascending fields := by
    cases ordered with
    | object ascending _ => exact ascending
  obtain ⟨merged, mergedHolds, ascending, laid⟩ :=
    Document.stackHolds holds sayingsHolds inOrder (Entries.ascendingOfList saids)
  simp only [Entries.findOfList] at laid
  obtain ⟨settings, taken, verbosity, found⟩ := settingsOver related ordered takes laid
  have wellNamed : settings.WellNamed := Settings.namedOver found environmentNamed named
  obtain ⟨overrides, valid⟩ := Settings.overridesOk wellNamed
  refine ⟨{ settings with path := settings.path.map (FilePath.expand home) }, ?_, verbosity,
    wellNamed, found⟩
  rw [loadSettingsStages, opened]
  refine bindOk.mpr ⟨_, extended, ?_⟩
  have sectionDocument : (({ empty with
      loaded, environment := layer, file := origin } : Config).merged.member? "log").getD
        .empty = .object merged := by
    rw [mergedMember objects (makes ▸ laidObjects), makes]
    exact mergedHolds.asObject
  unfold Config.settings
  rw [sectionDocument, (Settings.ofObjectTakes ascending.nodup).mpr taken]
  refine bindOk.mpr ⟨overrides, valid, rfl⟩

end Config

end LeveledLogging
