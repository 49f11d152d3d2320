import LeveledLogging.Proofs.Configurations
import LeveledLogging.Proofs.Sections
import Mathlib.Data.List.ReduceOption
/-! The layer that variables make. Each variable that is accepted says one field of the log or nothing
(`Says`); the layer holds the fields that were said, and of each field what was said last. -/
namespace LeveledLogging

namespace Directives

def listed (s : String) : List (String × Level) := (readAll s).toOption.getD []

theorem listedOk {s : String} {pairs : List (String × Level)} (read : readAll s = .ok pairs) :
    listed s = pairs := by
  rw [listed, read]
  rfl

theorem explainOk {α : Type} {directive : String} {r : Except LogError α} {a : α} :
    explain directive r = .ok a ↔ r = .ok a := by
  unfold explain
  split <;> simp

theorem readOneNamed {directive : String} {pair : String × Level}
    (read : readOne directive = .ok pair) : ∃ name, LoggerName.read pair.1 = .ok name := by
  unfold readOne at read
  obtain ⟨name, named, read⟩ := bindOk.mp read
  obtain ⟨level, _, same⟩ := returnOk.mp read
  cases same
  exact ⟨name, explainOk.mp named⟩

theorem listedNamed {s : String} : ∀ pair ∈ listed s, ∃ name, LoggerName.read pair.1 = .ok name := by
  intro pair inside
  cases read : readAll s with
  | error fault =>
    rw [listed, read] at inside
    contradiction
  | ok pairs =>
    rw [listedOk read] at inside
    obtain ⟨piece, _, done⟩ := relatedOrigin (mapMOk.mp read) pair inside
    exact readOneNamed done

end Directives

namespace Config

def variableFields : List (String × String) :=
  [(verbosityVariable, "verbosity"), (pathVariable, "path"), (traceVariable, "trace"),
    (levelsVariable, "levels")]

def levelsDocument (pairs : List (String × Level)) : Document := .ofLevels (.ofList pairs)

inductive Says (name value : String) : Option (String × Document) → Prop where
  | verbosity {n} (own : name = verbosityVariable) (read : Text.readInt32 (Text.trim value) = some n) :
    Says name value (some ("verbosity", .integer n.toInt))
  | path (own : name = pathVariable) : Says name value (some ("path", .text value))
  | trace {b} (own : name = traceVariable) (read : readFlag value = some b) :
    Says name value (some ("trace", .boolean b))
  | levels {pairs} (own : name = levelsVariable) (read : Directives.readAll value = .ok pairs) :
    Says name value (some ("levels", levelsDocument pairs))
  | nothing (other : ∀ pair ∈ variableFields, name ≠ pair.1) : Says name value none

def Accepted (entry : String × String) : Prop := ∃ said, readVariable entry.1 entry.2 = .ok said

theorem readVariableSays {name value : String} {said : Option (String × OrderedDocument)}
    (read : readVariable name value = .ok said) :
    ∃ own, Says name value own ∧ said.map (Prod.map id OrderedDocument.document) =
      own.map fun pair => ("log." ++ pair.1, pair.2) := by
  unfold readVariable at read
  by_cases isVerbosity : name = verbosityVariable
  · rw [if_pos isVerbosity] at read
    cases found : Text.readInt32 (Text.trim value) with
    | none => simp [found] at read
    | some n =>
      simp only [found, Except.ok.injEq] at read
      exact ⟨_, .verbosity isVerbosity found, by rw [← read]; rfl⟩
  rw [if_neg isVerbosity] at read
  by_cases isPath : name = pathVariable
  · rw [if_pos isPath, Except.ok.injEq] at read
    exact ⟨_, .path isPath, by rw [← read]; rfl⟩
  rw [if_neg isPath] at read
  by_cases isTrace : name = traceVariable
  · rw [if_pos isTrace] at read
    cases found : readFlag value with
    | none => simp [found] at read
    | some b =>
      simp only [found, Except.ok.injEq] at read
      exact ⟨_, .trace isTrace found, by rw [← read]; rfl⟩
  rw [if_neg isTrace] at read
  by_cases isLevels : name = levelsVariable
  · rw [if_pos isLevels] at read
    obtain ⟨levels, found, same⟩ := returnOk.mp read
    obtain ⟨pairs, listed, rfl⟩ := returnOk.mp found
    exact ⟨_, .levels isLevels listed, by rw [← same]; rfl⟩
  · rw [if_neg isLevels, Except.ok.injEq] at read
    refine ⟨none, .nothing ?_, by rw [← read]; rfl⟩
    simp [variableFields, isVerbosity, isPath, isTrace, isLevels]

theorem Says.paired {name value field : String} {document : Document}
    (saying : Says name value (some (field, document))) : (name, field) ∈ variableFields := by
  cases saying with
  | verbosity own _ => simp [variableFields, own]
  | path own => simp [variableFields, own]
  | trace own _ => simp [variableFields, own]
  | levels own _ => simp [variableFields, own]

def sayings : List (String × Document) → Option Document
  | [] => none
  | saids => some (.object [("log", .object (Entries.ofList saids))])

theorem fieldParts {name field : String} (paired : (name, field) ∈ variableFields) :
    Text.split '.' ("log." ++ field) = ["log", field] ∧ field ≠ "" := by
  have all : ∀ pair ∈ variableFields,
      Text.split '.' ("log." ++ pair.2) = ["log", pair.2] ∧ pair.2 ≠ "" := by decide
  exact all (name, field) paired

theorem sayingsPut (saids : List (String × Document)) (field : String) (document : Document) :
    sayings (saids ++ [(field, document)]) =
      some (.put ["log", field] document ((sayings saids).getD .empty)) := by
  have appended : Entries.ofList (saids ++ [(field, document)]) =
      (Entries.ofList saids).insert field document := by
    rw [Entries.ofList, Entries.insertAll, List.foldl_append]
    rfl
  cases saids with
  | nil => rfl
  | cons first rest =>
    rw [List.cons_append] at appended
    simp only [List.cons_append, sayings, appended]
    simp [Document.put, Document.members, Entries.insert, Entries.find?]

theorem setVariableSays {config : Config} {saids : List (String × Document)}
    (environment : config.layer .environment = sayings saids) {entry : String × String}
    (accepted : Accepted entry) :
    ∃ own layer, Says entry.1 entry.2 own ∧
      config.setVariable entry = .ok { config with environment := layer } ∧
      layer.map OrderedDocument.document = sayings (saids ++ own.toList) := by
  obtain ⟨said, read⟩ := accepted
  obtain ⟨own, saying, same⟩ := readVariableSays read
  unfold setVariable
  rw [read]
  cases said with
  | none =>
    cases Option.map_eq_none_iff.mp same.symm
    refine ⟨none, config.environment, saying, rfl, ?_⟩
    rw [Option.toList_none, List.append_nil]
    exact environment
  | some pair =>
    obtain ⟨⟨field, document⟩, rfl, named⟩ := Option.map_eq_some_iff.mp same.symm
    obtain ⟨key, value⟩ := pair
    obtain ⟨rfl, rfl⟩ : "log." ++ field = key ∧ document = value.document := Prod.mk.inj named
    obtain ⟨parts, visible⟩ := fieldParts saying.paired
    have complete : "" ∉ ["log", field] := by simp [Ne.symm visible]
    rcases setInCases config .environment ("log." ++ field) value with ⟨_, set⟩ | ⟨blank, _⟩
    · refine ⟨some (field, value.document), some (.put (Text.split '.' ("log." ++ field)) value
        ((config.stored .environment).getD .empty)), saying, ?_, ?_⟩
      · simp only [bind, Except.bind, set]
        rfl
      · rw [Option.toList_some, sayingsPut, ← environment, ← storedDocument, ← parts]
        rfl
    · exact absurd (parts ▸ blank) complete

theorem setVariablesSay {config : Config} {saids : List (String × Document)}
    (environment : config.layer .environment = sayings saids) {entries : List (String × String)}
    (accepted : ∀ entry ∈ entries, Accepted entry) :
    ∃ owns layer, List.Forall₂ (fun entry own => Says entry.1 entry.2 own) entries owns ∧
      entries.foldlM setVariable config = .ok { config with environment := layer } ∧
      layer.map OrderedDocument.document = sayings (saids ++ owns.reduceOption) := by
  induction entries generalizing config saids with
  | nil =>
    refine ⟨[], config.environment, .nil, rfl, ?_⟩
    rw [List.reduceOption_nil, List.append_nil]
    exact environment
  | cons entry rest ih =>
    obtain ⟨own, between, saying, set, said⟩ :=
      setVariableSays environment (accepted entry List.mem_cons_self)
    have next : ({ config with environment := between } : Config).layer .environment =
      sayings (saids ++ own.toList) := said
    obtain ⟨owns, layer, others, done, all⟩ :=
      ih next fun e inside => accepted e (List.mem_cons_of_mem _ inside)
    refine ⟨own :: owns, layer, .cons saying others, ?_, ?_⟩
    · rw [List.foldlM_cons, set]
      exact done
    · rw [all, List.append_assoc]
      cases own <;> rfl

theorem relOr {α β : Type} {r : α → β → Prop} {a c : Option α} {b d : Option β}
    (first : Option.Rel r a b) (second : Option.Rel r c d) : Option.Rel r (a.or c) (b.or d) := by
  cases first with
  | none => exact second
  | some related => exact .some related

theorem lastSaid {entries : List (String × String)} {owns : List (Option (String × Document))}
    (saying : List.Forall₂ (fun entry own => Says entry.1 entry.2 own) entries owns)
    {name field : String} (paired : (name, field) ∈ variableFields) :
    Option.Rel (fun value document => Says name value (some (field, document)))
      (lastOf entries name) (lastOf owns.reduceOption field) := by
  have unique : ∀ a ∈ variableFields, ∀ b ∈ variableFields, a.1 = b.1 ↔ a.2 = b.2 := by decide
  induction saying with
  | nil => exact .none
  | @cons entry own entries owns here _ ih =>
    obtain ⟨given, value⟩ := entry
    cases own with
    | none =>
      have other : given ≠ name := by
        cases here with
        | nothing other => exact other _ paired
      rw [lastOf, if_neg other, Option.or_none]
      exact ih
    | some pair =>
      obtain ⟨f, document⟩ := pair
      have same : given = name ↔ f = field := unique _ here.paired _ paired
      change Option.Rel _ _ (lastOf ((f, document) :: owns.reduceOption) field)
      rw [lastOf, lastOf]
      refine relOr ih ?_
      by_cases own : given = name
      · rw [if_pos own, if_pos (same.mp own)]
        cases own
        cases same.mp rfl
        exact .some here
      · rw [if_neg own, if_neg fun equal => own (same.mpr equal)]
        exact .none

structure Said (entries : List (String × String)) (saids : List (String × Document)) : Prop where
  last : ∀ name field, (name, field) ∈ variableFields →
    Option.Rel (fun value document => Says name value (some (field, document)))
      (lastOf entries name) (lastOf saids field)
  known : ∀ pair ∈ saids, pair.1 ∈ variableFields.map Prod.snd

theorem withEnvironmentSays (config : Config) {entries : List (String × String)}
    (accepted : ∀ entry ∈ entries, Accepted entry) :
    ∃ saids layer, Said entries saids ∧
      config.withEnvironment entries = .ok { config with environment := layer } ∧
      layer.map OrderedDocument.document = sayings saids := by
  have blank : ({ config with environment := none } : Config).layer .environment = sayings [] := rfl
  obtain ⟨owns, layer, saying, done, said⟩ := setVariablesSay blank accepted
  refine ⟨owns.reduceOption, layer, ⟨fun name field paired => lastSaid saying paired, ?_⟩, done, said⟩
  intro pair inside
  obtain ⟨entry, _, here⟩ :=
    relatedOrigin saying (some pair) (List.reduceOption_mem_iff.mp inside)
  exact List.mem_map.mpr ⟨_, here.paired, rfl⟩

def environmentVerbosity (entries : List (String × String)) : Option Int32 :=
  (lastOf entries verbosityVariable).bind fun value => Text.readInt32 (Text.trim value)

def environmentDirectives (entries : List (String × String)) : List (String × Level) :=
  ((lastOf entries levelsVariable).map Directives.listed).getD []

theorem saysVerbosity {name value : String} {document : Document}
    (saying : Says name value (some ("verbosity", document))) :
    ∃ n, Text.readInt32 (Text.trim value) = some n ∧ document = .integer n.toInt := by
  generalize said : some ("verbosity", document) = own at saying
  cases saying with
  | verbosity _ read => exact ⟨_, read, congrArg Prod.snd (Option.some.inj said)⟩
  | _ => simp at said

theorem saysPath {name value : String} {document : Document}
    (saying : Says name value (some ("path", document))) : document = .text value := by
  generalize said : some ("path", document) = own at saying
  cases saying with
  | path _ => exact congrArg Prod.snd (Option.some.inj said)
  | _ => simp at said

theorem saysTrace {name value : String} {document : Document}
    (saying : Says name value (some ("trace", document))) : ∃ b, document = .boolean b := by
  generalize said : some ("trace", document) = own at saying
  cases saying with
  | trace _ _ => exact ⟨_, congrArg Prod.snd (Option.some.inj said)⟩
  | _ => simp at said

theorem saysLevels {name value : String} {document : Document}
    (saying : Says name value (some ("levels", document))) :
    ∃ pairs, Directives.readAll value = .ok pairs ∧ document = levelsDocument pairs := by
  generalize said : some ("levels", document) = own at saying
  cases saying with
  | levels _ read => exact ⟨_, read, congrArg Prod.snd (Option.some.inj said)⟩
  | _ => simp at said

end Config

end LeveledLogging
