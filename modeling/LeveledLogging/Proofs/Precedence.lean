import LeveledLogging.Proofs.Loading
import LeveledLogging.Proofs.Lookup
/-! The section of the log out of all layers. Each member is the one of the highest layer that mentions
it, and levels are united name by name, where again the highest layer counts
(`settingsByPrecedence`). -/
namespace LeveledLogging

namespace Document

theorem laidSingle {pile : List Document} (single : ∀ document ∈ pile, document.isObject = false) :
    laid pile = pile.head? := by
  cases pile with
  | nil => rfl
  | cons top rest => exact laidTop (single top List.mem_cons_self) rest

theorem memberStep {document : Document} (kind : document.isObject = true) (key : String) :
    document.member? key = document.step key := by
  obtain ⟨members, rfl⟩ := isObjectIff.mp kind
  rfl

theorem findLaid {pile : List Document} (ordered : ∀ document ∈ pile, document.Ordered)
    (objects : ∀ document ∈ pile, document.isObject = true) (key : String) :
    Entries.find? key ((laid pile).getD empty).members = laid (pile.filterMap (step key)) := by
  rw [← stepLaid ordered objects]
  cases found : laid pile with
  | none => rfl
  | some document =>
    obtain ⟨members, rfl⟩ := isObjectIff.mp (laidObjects objects document found)
    rfl

end Document

/- What a layer says about the log, each member or none. The path may be said to be none. -/
structure Mentions where
  verbosity : Option Int32
  path : Option (Option String)
  trace : Option Bool
  format : Option LineFormat
  levels : Option LevelTable

namespace Mentions

def nothing : Mentions := ⟨none, none, none, none, none⟩

structure WrittenIn (mentions : Mentions) (fields : Entries Document) : Prop where
  verbosity : fields.find? "verbosity" = mentions.verbosity.map fun n => .integer n.toInt
  path : fields.find? "path" = mentions.path.map fun path => path.elim .null .text
  trace : fields.find? "trace" = mentions.trace.map .boolean
  format : fields.find? "format" = mentions.format.map fun format => .text format.word
  levels : fields.find? "levels" = mentions.levels.map .ofLevels

/- The document of a layer that says so: none, or an object whose section is none or an object. -/
inductive SaidBy : Mentions → Option Document → Prop where
  | absent : SaidBy nothing none
  | bare {members} (absent : Entries.find? "log" members = none) :
    SaidBy nothing (some (.object members))
  | given {mentions members fields} (present : Entries.find? "log" members = some (.object fields))
      (written : mentions.WrittenIn fields) : SaidBy mentions (some (.object members))

section
variable {mentions : Mentions} {layer : Option Document} (said : mentions.SaidBy layer)

include said

theorem SaidBy.object : ∀ document ∈ layer, document.isObject = true := by
  cases said with
  | absent => simp
  | _ =>
    intro document same
    cases Option.mem_some.mp same
    rfl

theorem SaidBy.sectionWritten :
    ∃ fields, Document.Holds (layer.bind (Document.member? "log")) fields ∧
      mentions.WrittenIn fields := by
  have blank : nothing.WrittenIn [] := ⟨rfl, rfl, rfl, rfl, rfl⟩
  cases said with
  | absent => exact ⟨[], .absent, blank⟩
  | bare absent =>
    refine ⟨[], ?_, blank⟩
    rw [Option.bind_some, Document.member?, absent]
    exact .absent
  | given present written =>
    refine ⟨_, ?_, written⟩
    rw [Option.bind_some, Document.member?, present]
    exact .given _

end

def Writes {α : Type} (key : String) (pick : Mentions → Option α) (write : α → Document) : Prop :=
  ∀ mentions fields, WrittenIn mentions fields →
    Entries.find? key fields = (pick mentions).map write

end Mentions

theorem takenGiven {α : Type} {read : Document → Except DecodeFault α} {write : α → Document}
    (reads : ∀ a, read (write a) = .ok a) (otherwise : α) (given : Option α) :
    Taken read otherwise (given.map write) (given.getD otherwise) := by
  cases given with
  | none => rfl
  | some a => exact reads a

theorem Settings.wellNamedIff {settings : Settings} :
    (∃ overrides, settings.overrides = .ok overrides) ↔ settings.WellNamed := by
  constructor
  · rintro ⟨overrides, valid⟩ key inside
    rw [overridesIff.mp valid] at inside
    obtain ⟨entry, there, rfl⟩ := List.mem_map.mp inside
    obtain ⟨setting, _, rfl⟩ := List.mem_map.mp there
    exact ⟨setting.1, LoggerName.readDotted setting.1⟩
  · exact overridesOk

namespace Config

def sections (config : Config) : List Document :=
  Layer.all.reverse.filterMap fun layer => (config.layer layer).bind (Document.member? "log")

def topmost {α : Type} (mentions : Layer → Mentions) (pick : Mentions → Option α) : Option α :=
  Layer.all.reverse.findSome? fun layer => pick (mentions layer)

section
variable {config : Config}
variable {mentions : Layer → Mentions} (said : ∀ layer, (mentions layer).SaidBy (config.layer layer))

include said

theorem sectionObjects : ∀ document ∈ config.sections, document.isObject = true := by
  intro document inside
  obtain ⟨layer, _, found⟩ := List.mem_filterMap.mp inside
  obtain ⟨fields, holds, _⟩ := (said layer).sectionWritten
  rw [found] at holds
  cases holds
  rfl

theorem sectionsSay {α : Type} {key : String} {pick : Mentions → Option α} {write : α → Document}
    (writes : Mentions.Writes key pick write) :
    config.sections.filterMap (Document.step key) =
      (Layer.all.reverse.filterMap fun layer => pick (mentions layer)).map write := by
  rw [sections, List.filterMap_filterMap, List.map_filterMap]
  refine List.filterMap_congr ?_
  intro layer _
  obtain ⟨fields, holds, written⟩ := (said layer).sectionWritten
  rw [← writes _ _ written]
  generalize (config.layer layer).bind (Document.member? "log") = part at holds
  cases holds <;> rfl

theorem sectionOrdered : ∀ document ∈ config.sections, document.Ordered := by
  intro document inside
  obtain ⟨layer, _, found⟩ := List.mem_filterMap.mp inside
  obtain ⟨whole, there, member⟩ := Option.bind_eq_some_iff.mp found
  rw [Document.memberStep ((said layer).object whole there)] at member
  exact Document.stepOrdered (ordered there) member

theorem mergedSection : config.merged.member? "log" = Document.laid config.sections := by
  have objects : ∀ document ∈ config.pile, document.isObject = true := by
    intro document inside
    rcases List.mem_append.mp inside with there | bottom
    · obtain ⟨layer, _, found⟩ := List.mem_filterMap.mp there
      exact (said layer).object document found
    · rw [List.mem_singleton.mp bottom]
      rfl
  have merged := mergedPile config
  have steps := Document.stepLaid config.pileOrdered objects "log"
  rw [merged, Option.bind_some] at steps
  rw [Document.memberStep (Document.laidObjects objects _ merged), steps]
  have bottom : Document.step "log" .empty = none := rfl
  rw [pile, List.filterMap_append, List.filterMap_cons_none bottom, List.filterMap_nil,
    List.append_nil, List.filterMap_filterMap, sections]
  congr 1
  refine List.filterMap_congr ?_
  intro layer _
  cases found : config.layer layer with
  | none => rfl
  | some document => exact (Document.memberStep ((said layer).object document found) "log").symm

theorem findSection (key : String) :
    Entries.find? key ((config.merged.member? "log").getD .empty).members =
      Document.laid (config.sections.filterMap (Document.step key)) := by
  rw [mergedSection said]
  exact Document.findLaid (sectionOrdered said) (sectionObjects said) key

theorem findTopmost {α : Type} {key : String} {pick : Mentions → Option α} {write : α → Document}
    (writes : Mentions.Writes key pick write)
    (single : ∀ a, (write a).isObject = false) :
    Entries.find? key ((config.merged.member? "log").getD .empty).members =
      (topmost mentions pick).map write := by
  rw [findSection said, sectionsSay said writes, Document.laidSingle, List.head?_map,
    List.head?_filterMap, topmost]
  intro document inside
  obtain ⟨a, _, rfl⟩ := List.mem_map.mp inside
  exact single a

theorem levelsUnited :
    ∃ levels, Taken Document.asLevels .empty
        (Entries.find? "levels" ((config.merged.member? "log").getD .empty).members) levels ∧
      ∀ key, levels.entries.find? key =
        topmost mentions fun m => m.levels.bind (·.entries.find? key) := by
  let tables := Layer.all.reverse.filterMap fun layer => (mentions layer).levels
  have listed : config.sections.filterMap (Document.step "levels") = tables.map .ofLevels :=
    sectionsSay said fun _ _ written => written.levels
  have inOrder : ∀ document ∈ tables.map Document.ofLevels, document.Ordered := by
    rw [← listed]
    intro document inside
    obtain ⟨part, there, found⟩ := List.mem_filterMap.mp inside
    exact Document.stepOrdered (sectionOrdered said part there) found
  have objects : ∀ document ∈ tables.map Document.ofLevels, document.isObject = true := by
    intro document inside
    obtain ⟨levels, _, rfl⟩ := List.mem_map.mp inside
    rfl
  have united : ∀ key, (Document.laid (tables.map .ofLevels)).bind (Document.step key) =
      (topmost mentions fun m => m.levels.bind (·.entries.find? key)).map Document.ofLevel := by
    intro key
    have words : (tables.map Document.ofLevels).filterMap (Document.step key) =
        (tables.filterMap (·.entries.find? key)).map Document.ofLevel := by
      rw [List.filterMap_map, List.map_filterMap]
      exact List.filterMap_congr fun levels _ => levels.entries.findMapValues Document.ofLevel key
    rw [Document.stepLaid inOrder objects, words, Document.laidSingle, List.head?_map,
      List.filterMap_filterMap, List.head?_filterMap, topmost]
    intro document inside
    obtain ⟨level, _, rfl⟩ := List.mem_map.mp inside
    rfl
  rw [findSection said, listed]
  cases found : Document.laid (tables.map .ofLevels) with
  | none =>
    refine ⟨.empty, rfl, ?_⟩
    intro key
    have nowhere := united key
    rw [found, Option.bind_none] at nowhere
    exact (Option.map_eq_none_iff.mp nowhere.symm).symm
  | some document =>
    obtain ⟨members, rfl⟩ := Document.isObjectIff.mp (Document.laidObjects objects _ found)
    have ascending : Entries.Ascending members :=
      (Document.membersOrdered (Document.laidOrdered inOrder _ found)).1
    refine Document.asLevelsEach ascending ?_
    intro key
    have here := united key
    rw [found, Option.bind_some] at here
    change Entries.find? key members = _ at here
    rw [here]
    cases topmost mentions fun m => m.levels.bind (·.entries.find? key) with
    | none => exact .none
    | some level => exact .some (Document.asLevelWord level)

theorem sectionDecoded :
    ∃ decoded : Settings,
      Settings.ofDocument ((config.merged.member? "log").getD .empty) = .ok decoded ∧
      decoded.verbosity = (topmost mentions Mentions.verbosity).getD Settings.standard.verbosity ∧
      decoded.path = (topmost mentions Mentions.path).getD Settings.standard.path ∧
      decoded.trace = (topmost mentions Mentions.trace).getD Settings.standard.trace ∧
      decoded.format = (topmost mentions Mentions.format).getD Settings.standard.format ∧
      ∀ key, decoded.levels.find? key =
        topmost mentions fun m => m.levels.bind (·.entries.find? key) := by
  obtain ⟨levels, levelsTaken, found⟩ := levelsUnited said
  have verbosity := findTopmost said (fun _ _ written => written.verbosity) (fun _ => rfl)
  have path := findTopmost said (fun _ _ written => written.path) (fun p => by cases p <;> rfl)
  have trace := findTopmost said (fun _ _ written => written.trace) (fun _ => rfl)
  have format := findTopmost said (fun _ _ written => written.format) (fun _ => rfl)
  have inOrder : ∀ document ∈ config.merged.member? "log", document.Ordered := by
    rw [mergedSection said]
    exact Document.laidOrdered (sectionOrdered said)
  obtain ⟨fields, whole, ascending⟩ : ∃ fields : Entries Document,
      (config.merged.member? "log").getD .empty = .object fields ∧ fields.Ascending := by
    cases there : config.merged.member? "log" with
    | none => exact ⟨[], rfl, List.Pairwise.nil⟩
    | some document =>
      have kind := mergedSection said
      rw [there] at kind
      obtain ⟨fields, rfl⟩ := Document.isObjectIff.mp
        (Document.laidObjects (sectionObjects said) document kind.symm)
      exact ⟨fields, rfl, (Document.membersOrdered (inOrder _ there)).1⟩
  rw [whole] at levelsTaken verbosity path trace format ⊢
  have readsPath : ∀ p : Option String,
      Document.asOptional Document.asPath (p.elim .null .text) = .ok p := fun p => by cases p <;> rfl
  have readsTrace : ∀ b, Document.asBoolean (.boolean b) = .ok b := fun _ => rfl
  have readsFormat : ∀ format : LineFormat, LineFormat.read (.text format.word) = .ok format :=
    fun format => by cases format <;> decide
  refine ⟨⟨_, _, _, _, levels⟩,
    (Settings.ofObjectTakes ascending.nodup).mpr ⟨?_, ?_, ?_, ?_, levelsTaken⟩,
    rfl, rfl, rfl, rfl, found⟩
  · exact verbosity ▸ takenGiven asInt32Integer _ _
  · exact path ▸ takenGiven readsPath _ _
  · exact trace ▸ takenGiven readsTrace _ _
  · exact format ▸ takenGiven readsFormat _ _

end

def NamesRead (mentions : Layer → Mentions) : Prop :=
  ∀ layer, ∀ levels ∈ (mentions layer).levels, ∀ key ∈ levels.entries.keys,
    ∃ name, LoggerName.read key = .ok name

theorem unitedNames {mentions : Layer → Mentions} {levels : Entries Level}
    (found : ∀ key, levels.find? key =
      topmost mentions fun m => m.levels.bind (·.entries.find? key)) :
    (∀ key ∈ levels.keys, ∃ name, LoggerName.read key = .ok name) ↔ NamesRead mentions := by
  have inside : ∀ key, key ∈ levels.keys ↔
      ∃ layer, ∃ table ∈ (mentions layer).levels, key ∈ table.entries.keys := by
    intro key
    rw [← not_iff_not, ← Entries.findNone, found, topmost, List.findSome?_eq_none_iff]
    simp only [Option.bind_eq_none_iff, Entries.findNone, not_exists, not_and]
    constructor
    · intro absent layer
      exact absent layer (List.mem_reverse.mpr layer.allListed)
    · exact fun absent layer _ => absent layer
  simp only [inside, NamesRead]
  constructor
  · intro read layer table there key member
    exact read key ⟨layer, table, there, member⟩
  · rintro read key ⟨layer, table, there, member⟩
    exact read layer table there key member

theorem settingsDecoded {config : Config} {decoded : Settings}
    (done : Settings.ofDocument ((config.merged.member? "log").getD .empty) = .ok decoded)
    (home : Option String) (settings : Settings) :
    config.settings home = .ok settings ↔
      decoded.WellNamed ∧
        settings = { decoded with path := decoded.path.map (FilePath.expand home) } := by
  unfold Config.settings
  rw [done, bindOk]
  change (∃ overrides, decoded.overrides = .ok overrides ∧ _) ↔ _
  rw [← Settings.wellNamedIff]
  constructor
  · rintro ⟨overrides, valid, same⟩
    exact ⟨⟨overrides, valid⟩, (Except.ok.inj same).symm⟩
  · rintro ⟨⟨overrides, valid⟩, rfl⟩
    exact ⟨overrides, valid, rfl⟩

theorem settingsByPrecedence {config : Config} {mentions : Layer → Mentions}
    (said : ∀ layer, (mentions layer).SaidBy (config.layer layer))
    (home : Option String) :
    ((∃ settings, config.settings home = .ok settings) ↔ NamesRead mentions) ∧
    ∀ settings, config.settings home = .ok settings →
      settings.verbosity = (topmost mentions Mentions.verbosity).getD Settings.standard.verbosity ∧
      settings.path = ((topmost mentions Mentions.path).getD Settings.standard.path).map
        (FilePath.expand home) ∧
      settings.trace = (topmost mentions Mentions.trace).getD Settings.standard.trace ∧
      settings.format = (topmost mentions Mentions.format).getD Settings.standard.format ∧
      settings.levels.Ascending ∧
      ∀ key, settings.levels.find? key =
        topmost mentions fun m => m.levels.bind (·.entries.find? key) := by
  obtain ⟨decoded, done, verbosity, path, trace, format, found⟩ := sectionDecoded said
  simp only [settingsDecoded done home]
  constructor
  · rw [← unitedNames found]
    exact ⟨fun ⟨_, named, _⟩ => named, fun named => ⟨_, named, rfl⟩⟩
  · rintro settings ⟨_, rfl⟩
    exact ⟨verbosity, congrArg (Option.map _) path, trace, format, decoded.ascending, found⟩

theorem layersUnited :
    let standard : OrderedDocument := .object (.ofList [("log", .object (.ofList
      [("trace", .boolean true), ("verbosity", .integer 1)]))])
    let loaded : OrderedDocument := .object (.ofList [("log", .object (.ofList
      [("levels", .ofLevels ⟨[("a.b", .info), ("c", .off)], by decide⟩), ("path", .text "app.log")]))])
    let environment : OrderedDocument := .object (.ofList [("log", .object (.ofList
      [("levels", .ofLevels ⟨[("c", .debug)], by decide⟩), ("path", .text "~/app.log")]))])
    let config : Config := ⟨some standard, some loaded, none, some environment, none, false⟩
    ∃ settings, config.settings (some "/home") = .ok settings ∧ settings.verbosity = 1 ∧
      settings.path = some "/home/app.log" ∧ settings.trace = true ∧ settings.format = .full ∧
      settings.levels.find? "a.b" = some .info ∧ settings.levels.find? "c" = some .debug := by
  intro standard loaded environment config
  let mentions (layer : Layer) : Mentions :=
    if layer = .standard then ⟨some 1, none, some true, none, none⟩
    else if layer = .loaded then
      ⟨none, some (some "app.log"), none, none, some ⟨[("a.b", .info), ("c", .off)], by decide⟩⟩
    else if layer = .set then .nothing
    else ⟨none, some (some "~/app.log"), none, none, some ⟨[("c", .debug)], by decide⟩⟩
  have said : ∀ layer, (mentions layer).SaidBy (config.layer layer) := by
    intro layer
    cases layer with
    | set => exact .absent
    | _ => exact .given rfl ⟨rfl, rfl, rfl, rfl, rfl⟩
  have read : NamesRead mentions := by
    intro layer levels said key inside
    cases layer with
    | loaded =>
      cases said
      rcases List.mem_pair.mp inside with rfl | rfl
      · exact ⟨_, LoggerName.readDotted ⟨["a", "b"], by decide⟩⟩
      · exact ⟨_, LoggerName.readDotted ⟨["c"], by decide⟩⟩
    | environment =>
      cases said
      cases List.mem_singleton.mp inside
      exact ⟨_, LoggerName.readDotted ⟨["c"], by decide⟩⟩
    | _ => cases said
  obtain ⟨succeeds, members⟩ := settingsByPrecedence said (some "/home")
  obtain ⟨settings, done⟩ := succeeds.mpr read
  obtain ⟨verbosity, path, trace, format, _, levels⟩ := members settings done
  exact ⟨settings, done, verbosity, path.trans (by decide), trace, format, levels "a.b", levels "c"⟩

end Config

end LeveledLogging
