import LeveledLogging.Proofs.Loaded
/-! Level directives one after the other. The pieces of texts that are joined by commas are those of
the texts in turn, so that reading them together is reading each of them and letting the later ones
overrule the earlier ones; and so it is the same to give the program many texts of directives or one
(`directivesConcatenate`). -/
namespace LeveledLogging

namespace Table

variable {α : Type}

theorem insertAllGathered (table : Table α) (more : List (String × α)) :
    table.insertAll (Entries.ofList more) = table.insertAll more := by
  refine Table.ext (Entries.ascendingUnique ?_ ?_ fun key => ?_)
  · exact (table.insertAll _).ascending
  · exact (table.insertAll more).ascending
  · rw [insertAll, insertAll, Entries.findInsertAll, Entries.findInsertAll,
      Entries.lastOfDistinct (Entries.ascendingOfList more).nodup, Entries.findOfList]

theorem insertAllAppend (table : Table α) (first second : List (String × α)) :
    table.insertAll (first ++ second) = (table.insertAll first).insertAll second :=
  Table.ext List.foldl_append

end Table

namespace Directives

theorem piecesAppend (a b : String) : pieces (a ++ "," ++ b) = pieces a ++ pieces b := by
  have apart : Text.split ',' (a ++ "," ++ b) = Text.split ',' a ++ Text.split ',' b :=
    Text.splitAppend ',' a b
  rw [pieces, apart, List.map_append, List.filter_append]
  rfl

theorem piecesJoin (texts : List String) : pieces (Text.join ',' texts) = texts.flatMap pieces := by
  induction texts with
  | nil => decide
  | cons text rest ih =>
    cases rest with
    | nil => simp [Text.join, Text.joinChars]
    | cons next more =>
      have joined : Text.join ',' (text :: next :: more) =
          text ++ "," ++ Text.join ',' (next :: more) := Text.joinCons (List.cons_ne_nil next more)
      calc pieces (Text.join ',' (text :: next :: more))
          = pieces text ++ pieces (Text.join ',' (next :: more)) := by rw [joined, piecesAppend]
        _ = (text :: next :: more).flatMap pieces := by rw [ih]; rfl

theorem readIff {text : String} {levels : LevelTable} :
    read text = .ok levels ↔ ∃ pairs, readAll text = .ok pairs ∧ Table.ofList pairs = levels := by
  rw [read, returnOk]

theorem readAllAppend {a b : String} {pairs : List (String × Level)} :
    readAll (a ++ "," ++ b) = .ok pairs ↔ ∃ first second, readAll a = .ok first ∧
      readAll b = .ok second ∧ first ++ second = pairs := by
  rw [readAll, piecesAppend]
  exact mapMAppendOk

theorem ofListAppend (first second : List (String × Level)) :
    Table.ofList (first ++ second) =
      (Table.ofList first).insertAll (Table.ofList second).entries := by
  refine Eq.trans ?_ ((Table.ofList first).insertAllGathered second).symm
  exact Table.insertAllAppend .empty first second

theorem readAppend {a b : String} {levels : LevelTable} :
    read (a ++ "," ++ b) = .ok levels ↔ ∃ first second, read a = .ok first ∧
      read b = .ok second ∧ first.insertAll second.entries = levels := by
  constructor
  · intro done
    obtain ⟨pairs, listed, rfl⟩ := readIff.mp done
    obtain ⟨first, second, here, there, rfl⟩ := readAllAppend.mp listed
    exact ⟨_, _, readIff.mpr ⟨first, here, rfl⟩, readIff.mpr ⟨second, there, rfl⟩,
      (ofListAppend first second).symm⟩
  · intro ⟨one, two, here, there, same⟩
    obtain ⟨first, listed, rfl⟩ := readIff.mp here
    obtain ⟨second, listedToo, rfl⟩ := readIff.mp there
    have together := readAllAppend.mpr ⟨first, second, listed, listedToo, rfl⟩
    exact readIff.mpr ⟨_, together, (ofListAppend first second).trans same⟩

/- The levels that some pieces come to over other ones: of the pieces for a name the last counts. -/
def LastCounts (pieces : List String) (below levels : Entries Level) : Prop :=
  ∃ pairs, List.Forall₂ (fun piece pair => readOne piece = .ok pair) pieces pairs ∧
    ∀ name, levels.find? name = (lastOf pairs name).or (below.find? name)

theorem readLast {text : String} {levels : LevelTable} (done : read text = .ok levels) :
    LastCounts (pieces text) [] levels.entries := by
  obtain ⟨pairs, listed, rfl⟩ := readIff.mp done
  exact ⟨pairs, mapMOk.mp listed, Entries.findInsertAll [] pairs⟩

theorem findLaidOver (first second : LevelTable) (name : String) :
    (first.insertAll second.entries).entries.find? name =
      (second.entries.find? name).or (first.entries.find? name) := by
  rw [Table.insertAll, Entries.findInsertAll, Entries.lastOfDistinct second.ascending.nodup]

end Directives

namespace Command

theorem addDirectiveIff {settings next : Settings} {text : String} :
    addDirective settings text = .ok next ↔ ∃ pairs, Directives.readAll text = .ok pairs ∧
      { settings with table := settings.table.insertAll (Entries.ofList pairs) } = next := by
  unfold addDirective
  rw [returnOk]
  constructor
  · intro ⟨table, read, same⟩
    obtain ⟨pairs, listed, rfl⟩ := Directives.readIff.mp (explainOk.mp read)
    exact ⟨pairs, listed, same⟩
  · intro ⟨pairs, listed, same⟩
    exact ⟨_, explainOk.mpr (Directives.readIff.mpr ⟨pairs, listed, rfl⟩), same⟩

theorem addDirectivesIff {texts : List String} {settings final : Settings} :
    texts.foldlM addDirective settings = .ok final ↔
      ∃ pairs, (texts.flatMap Directives.pieces).mapM Directives.readOne = .ok pairs ∧
        { settings with table := settings.table.insertAll pairs } = final := by
  induction texts generalizing settings with
  | nil => simp [pure, Except.pure, Table.insertAll, Entries.insertAll]
  | cons text rest ih =>
    rw [List.foldlM_cons, bindOk, List.flatMap_cons]
    constructor
    · intro done
      obtain ⟨next, added, others⟩ := done
      obtain ⟨first, listed, rfl⟩ := addDirectiveIff.mp added
      obtain ⟨second, more, same⟩ := ih.mp others
      refine ⟨first ++ second, mapMAppendOk.mpr ⟨first, second, listed, more, rfl⟩, ?_⟩
      rw [Table.insertAllAppend, ← Table.insertAllGathered settings.table first]
      exact same
    · intro done
      obtain ⟨pairs, listed, same⟩ := done
      obtain ⟨first, second, here, more, rfl⟩ := mapMAppendOk.mp listed
      refine ⟨_, addDirectiveIff.mpr ⟨first, here, rfl⟩, ih.mpr ⟨second, more, ?_⟩⟩
      rw [← same, Table.insertAllAppend, ← Table.insertAllGathered settings.table first]

theorem addDirectivesJoined {texts : List String} {settings final : Settings} :
    texts.foldlM addDirective settings = .ok final ↔
      [Text.join ',' texts].foldlM addDirective settings = .ok final := by
  rw [addDirectivesIff, addDirectivesIff, List.flatMap_singleton, Directives.piecesJoin]

def counted (options : Options) (settings : Settings) : Settings :=
  if options.verbosity = 0 then settings
  else { settings with verbosity := Int32.ofNat options.verbosity }

theorem countedLevels (options : Options) (settings : Settings) :
    (counted options settings).levels = settings.levels := by
  unfold counted
  split <;> rfl

theorem loadSettingsIff {s : Surroundings} {options : Options} {settings : Settings} :
    loadSettings s options = .ok settings ↔ ∃ file,
      Config.loadSettings s.home s.files options.config s.environment = .ok file ∧
        options.levels.foldlM addDirective (counted options file) = .ok settings := by
  unfold loadSettings
  rw [bindOk]
  simp only [explainOk]
  rfl

theorem loadSettingsJoined {s : Surroundings} {options : Options} {settings : Settings} :
    loadSettings s options = .ok settings ↔
      loadSettings s { options with levels := [Text.join ',' options.levels] } = .ok settings := by
  rw [loadSettingsIff, loadSettingsIff]
  constructor
  · intro ⟨file, loaded, added⟩
    exact ⟨file, loaded, addDirectivesJoined.mp added⟩
  · intro ⟨file, loaded, added⟩
    exact ⟨file, loaded, addDirectivesJoined.mpr added⟩

theorem loadSettingsLast {s : Surroundings} {options : Options} {settings : Settings}
    (done : loadSettings s options = .ok settings) : ∃ file,
      Config.loadSettings s.home s.files options.config s.environment = .ok file ∧
        Directives.LastCounts (options.levels.flatMap Directives.pieces) file.levels
          settings.levels := by
  obtain ⟨file, loaded, added⟩ := loadSettingsIff.mp done
  obtain ⟨pairs, listed, rfl⟩ := addDirectivesIff.mp added
  refine ⟨file, loaded, pairs, mapMOk.mp listed, ?_⟩
  intro name
  refine (Entries.findInsertAll (counted options file).levels pairs name).trans ?_
  rw [countedLevels]

theorem directivesConcatenate :
    (∀ a b table, Directives.read (a ++ "," ++ b) = .ok table ↔
      ∃ first second, Directives.read a = .ok first ∧ Directives.read b = .ok second ∧
        first.insertAll second.entries = table ∧
        ∀ name, table.entries.find? name =
          (second.entries.find? name).or (first.entries.find? name)) ∧
    (∀ s options settings, loadSettings s options = .ok settings ↔
      loadSettings s { options with levels := [Text.join ',' options.levels] } = .ok settings) ∧
    (∀ text table, Directives.read text = .ok table →
      Directives.LastCounts (Directives.pieces text) [] table.entries) ∧
    ∀ s options settings, loadSettings s options = .ok settings → ∃ file,
      Config.loadSettings s.home s.files options.config s.environment = .ok file ∧
        Directives.LastCounts (options.levels.flatMap Directives.pieces) file.levels
          settings.levels := by
  refine ⟨?_, fun _ _ _ => loadSettingsJoined, fun _ _ => Directives.readLast,
    fun _ _ _ => loadSettingsLast⟩
  intro a b table
  rw [Directives.readAppend]
  constructor
  · intro ⟨first, second, here, there, same⟩
    subst same
    exact ⟨first, second, here, there, rfl, Directives.findLaidOver first second⟩
  · intro ⟨first, second, here, there, same, _⟩
    exact ⟨first, second, here, there, same⟩

theorem joinedOverVariable :
    let s : Surroundings := ⟨[("COMMONLOG_LEVELS", "b=info,c=error")], none, ⟨[], []⟩, ⟨0, 0, 0⟩,
      ⟨"m", 1⟩, fun _ => "", SubjectFilter.read, "", ""⟩
    let options : Options := ⟨0, false, none, ["a=info", " ,b=none", "a = DEBUG"]⟩
    let settings : Settings :=
      ⟨0, none, false, .full, ⟨[("a", .debug), ("b", .off), ("c", .error)], by decide⟩⟩
    loadSettings s options = .ok settings ∧
      loadSettings s { options with levels := ["a=info, ,b=none,a = DEBUG"] } = .ok settings ∧
      ∃ file, Config.loadSettings s.home s.files options.config s.environment = .ok file ∧
        Directives.LastCounts ["a=info", "b=none", "a = DEBUG"] file.levels settings.levels := by
  intro s options settings
  have loaded : (loadSettings s options).toOption = some settings := by decide +kernel
  have done := toOptionSome.mp loaded
  obtain ⟨_, joined, _, last⟩ := directivesConcatenate
  exact ⟨done, (joined s options settings).mp done, last s options settings done⟩

end Command

end LeveledLogging
