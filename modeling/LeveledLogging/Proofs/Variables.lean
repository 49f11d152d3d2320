import LeveledLogging.Document
import LeveledLogging.Proofs.Absorption
import LeveledLogging.Proofs.Environment
/-! The layer of the environment, and the order in which its variables come. Each variable is accepted
or refused on its own, and the layer is known from what the last variable of each name says
(`withEnvironmentAlike`). Other variables are passed over, and whatever the layer was before is gone
(`variablesAsSet`). -/
namespace LeveledLogging.Config

def related (entry : String × String) : Bool := entry.1 ∈ variableFields.map Prod.fst

theorem Says.read {name value : String} {own : Option (String × Document)}
    (saying : Says name value own) :
    ∃ said, readVariable name value = .ok said ∧
      said.map (Prod.map id OrderedDocument.document) =
        own.map fun pair => ("log." ++ pair.1, pair.2) := by
  unfold readVariable
  cases saying with
  | verbosity named read =>
    rw [if_pos named, read]
    exact ⟨_, rfl, rfl⟩
  | path named =>
    subst named
    exact ⟨_, rfl, rfl⟩
  | trace named read =>
    subst named
    have others : traceVariable ≠ verbosityVariable ∧ traceVariable ≠ pathVariable := by decide
    rw [if_neg others.1, if_neg others.2, if_pos rfl, read]
    exact ⟨_, rfl, rfl⟩
  | levels named read =>
    subst named
    have others : levelsVariable ≠ verbosityVariable ∧ levelsVariable ≠ pathVariable ∧
        levelsVariable ≠ traceVariable := by decide
    rw [if_neg others.1, if_neg others.2.1, if_neg others.2.2, if_pos rfl, Directives.read, read]
    exact ⟨_, rfl, rfl⟩
  | nothing other =>
    have others : name ≠ verbosityVariable ∧ name ≠ pathVariable ∧ name ≠ traceVariable ∧
        name ≠ levelsVariable := by simpa [variableFields] using other
    rw [if_neg others.1, if_neg others.2.1, if_neg others.2.2.1, if_neg others.2.2.2]
    exact ⟨_, rfl, rfl⟩

theorem saysSame {name value field : String} {document other : Document}
    (saying : Says name value (some (field, document)))
    (also : Says name value (some (field, other))) : document = other := by
  obtain ⟨said, read, own⟩ := saying.read
  obtain ⟨again, readAgain, ownAgain⟩ := also.read
  cases read.symm.trans readAgain
  simpa using own.symm.trans ownAgain

theorem setVariableUnrelated {entry : String × String} (other : related entry = false)
    (config : Config) : config.setVariable entry = .ok config := by
  have silent : Says entry.1 entry.2 none := by
    refine .nothing fun pair paired same => ?_
    exact of_decide_eq_false other (List.mem_map.mpr ⟨pair, paired, same.symm⟩)
  obtain ⟨said, read, nothing⟩ := silent.read
  cases Option.map_eq_none_iff.mp nothing
  unfold setVariable
  rw [read]
  rfl

theorem setVariablesRelated (config : Config) (entries : List (String × String)) :
    (entries.filter related).foldlM setVariable config = entries.foldlM setVariable config := by
  induction entries generalizing config with
  | nil => rfl
  | cons entry rest ih =>
    cases kind : related entry with
    | false =>
      rw [List.filter_cons_of_neg (by simp [kind]), List.foldlM_cons, setVariableUnrelated kind]
      exact ih config
    | true =>
      rw [List.filter_cons_of_pos kind, List.foldlM_cons, List.foldlM_cons]
      cases config.setVariable entry with
      | error fault => rfl
      | ok next => exact ih next

theorem setVariablesAccept {config after : Config} {entries : List (String × String)}
    (done : entries.foldlM setVariable config = .ok after) : ∀ entry ∈ entries, Accepted entry := by
  induction entries generalizing config with
  | nil => simp
  | cons entry rest ih =>
    rw [List.foldlM_cons] at done
    obtain ⟨next, set, onward⟩ := bindOk.mp done
    obtain ⟨said, read, _⟩ := bindOk.mp set
    intro other inside
    rcases List.mem_cons.mp inside with rfl | later
    · exact ⟨said, read⟩
    · exact ih onward other later

theorem withEnvironmentAccepts {config : Config} {entries : List (String × String)} :
    (∃ after, config.withEnvironment entries = .ok after) ↔ ∀ entry ∈ entries, Accepted entry := by
  constructor
  · intro ⟨after, done⟩
    exact setVariablesAccept done
  · intro accepted
    obtain ⟨saids, layer, _, done, _⟩ := withEnvironmentSays config accepted
    exact ⟨_, done⟩

theorem withEnvironmentRefuses (config : Config) {entries : List (String × String)}
    (refused : ¬ ∀ entry ∈ entries, Accepted entry) :
    (config.withEnvironment entries).toOption = none := by
  cases done : config.withEnvironment entries with
  | error fault => rfl
  | ok after => exact absurd (withEnvironmentAccepts.mp ⟨after, done⟩) refused

theorem relSame {α β : Type} {r : α → β → Prop} (only : ∀ x y z, r x y → r x z → y = z)
    {given : Option α} {one other : Option β} (here : Option.Rel r given one)
    (there : Option.Rel r given other) : one = other := by
  cases here with
  | none =>
    cases there with
    | none => rfl
  | some related =>
    cases there with
    | some also => rw [only _ _ _ related also]

theorem sayingsAlike {saids others : List (String × Document)}
    (same : ∀ field, lastOf saids field = lastOf others field) : sayings saids = sayings others := by
  have present : ∀ (pair : String × Document) rest, lastOf (pair :: rest) pair.1 ≠ none := by
    intro pair rest nothing
    exact lastOfNone.mp nothing (by simp)
  cases saids with
  | nil =>
    cases others with
    | nil => rfl
    | cons pair rest => exact absurd (same pair.1).symm (present pair rest)
  | cons first rest =>
    cases others with
    | nil => exact absurd (same first.1) (present first rest)
    | cons pair more =>
      have fields : Entries.ofList (first :: rest) = Entries.ofList (pair :: more) := by
        refine Entries.ascendingUnique (Entries.ascendingOfList _) (Entries.ascendingOfList _) ?_
        intro field
        rw [Entries.findOfList, Entries.findOfList]
        exact same field
      simp only [sayings, fields]

theorem saidAlike {entries others : List (String × String)} {saids more : List (String × Document)}
    (said : Said entries saids) (also : Said others more)
    (same : ∀ name, lastOf entries name = lastOf others name) (field : String) :
    lastOf saids field = lastOf more field := by
  by_cases known : field ∈ variableFields.map Prod.snd
  · obtain ⟨⟨name, own⟩, paired, rfl⟩ := List.mem_map.mp known
    have here := said.last name own paired
    rw [same] at here
    have only : ∀ value one two, Says name value (some (own, one)) →
        Says name value (some (own, two)) → one = two := fun _ _ _ => saysSame
    exact relSame only here (also.last name own paired)
  · have unsaid : ∀ pairs list, Said pairs list → lastOf list field = none := by
      intro pairs list related
      refine lastOfNone.mpr fun inside => ?_
      obtain ⟨pair, there, rfl⟩ := List.mem_map.mp inside
      exact known (related.known pair there)
    rw [unsaid _ _ said, unsaid _ _ also]

theorem withEnvironmentAlike (config : Config) {entries others : List (String × String)}
    (accepted : ∀ entry ∈ entries, Accepted entry) (acceptedToo : ∀ entry ∈ others, Accepted entry)
    (same : ∀ name, lastOf entries name = lastOf others name) :
    config.withEnvironment entries = config.withEnvironment others := by
  obtain ⟨saids, layer, said, done, makes⟩ := withEnvironmentSays config accepted
  obtain ⟨more, other, also, doneToo, makesToo⟩ := withEnvironmentSays config acceptedToo
  have alike := sayingsAlike (saidAlike said also same)
  rw [← makes, ← makesToo] at alike
  rw [done, doneToo, Option.map_injective (fun _ _ => OrderedDocument.ext) alike]

theorem withEnvironmentShuffled (config : Config) {entries shuffled : List (String × String)}
    (same : shuffled.Perm entries) (distinct : (entries.map Prod.fst).Nodup) :
    (config.withEnvironment shuffled).toOption = (config.withEnvironment entries).toOption := by
  have alike : (∀ entry ∈ shuffled, Accepted entry) ↔ ∀ entry ∈ entries, Accepted entry := by
    simp only [same.mem_iff]
  by_cases accepted : ∀ entry ∈ entries, Accepted entry
  · rw [withEnvironmentAlike config (alike.mpr accepted) accepted (lastOfPerm same distinct)]
  · rw [withEnvironmentRefuses config accepted,
      withEnvironmentRefuses config fun also => accepted (alike.mp also)]

theorem withEnvironmentAgain {config after : Config} {entries : List (String × String)}
    (done : config.withEnvironment entries = .ok after) :
    after = { config with environment := after.environment } ∧
      after.withEnvironment entries = .ok after := by
  obtain ⟨saids, layer, _, set, _⟩ := withEnvironmentSays config (withEnvironmentAccepts.mp ⟨after, done⟩)
  cases set.symm.trans done
  exact ⟨rfl, set⟩

theorem variablesAsSet (config : Config) (entries : List (String × String)) :
    ((∃ after, config.withEnvironment entries = .ok after) ↔ ∀ entry ∈ entries, Accepted entry) ∧
    (∀ shuffled, shuffled.Perm entries → (entries.map Prod.fst).Nodup →
      (config.withEnvironment shuffled).toOption = (config.withEnvironment entries).toOption) ∧
    config.withEnvironment (entries.filter related) = config.withEnvironment entries ∧
    (∀ earlier, ({ config with environment := earlier } : Config).withEnvironment entries =
      config.withEnvironment entries) ∧
    ∀ after, config.withEnvironment entries = .ok after →
      after = { config with environment := after.environment } ∧
        after.withEnvironment entries = .ok after :=
  ⟨withEnvironmentAccepts, fun _ same distinct => withEnvironmentShuffled config same distinct,
    setVariablesRelated _ entries, fun _ => rfl, fun _ done => withEnvironmentAgain done⟩

theorem levelsBeforeVerbosity :
    let config : Config :=
      { empty with set := some (.text "kept"), environment := some (.text "gone") }
    let entries := [("COMMONLOG_VERBOSITY", " 2 "), ("HOME", "/home"), ("COMMONLOG_LEVELS", "a=debug")]
    let layer : OrderedDocument := .object (.ofList [("log", .object (.ofList
      [("levels", .object (.ofList [("a", .text "debug")])), ("verbosity", .integer 2)]))])
    let after : Config := { config with environment := some layer }
    entries.reverse.Perm entries ∧ (entries.map Prod.fst).Nodup ∧
      (config.withEnvironment entries).toOption = some after ∧
      (config.withEnvironment entries.reverse).toOption = some after ∧
      after.withEnvironment entries = .ok after := by
  intro config entries layer after
  have same : entries.reverse.Perm entries := List.reverse_perm entries
  have distinct : (entries.map Prod.fst).Nodup := by decide
  have made : (config.withEnvironment entries).toOption.bind Config.environment = some layer := by
    decide +kernel
  obtain ⟨result, found, built⟩ := Option.bind_eq_some_iff.mp made
  have done := toOptionSome.mp found
  obtain ⟨_, shuffled, _, _, again⟩ := variablesAsSet config entries
  obtain ⟨framed, twice⟩ := again result done
  rw [built] at framed
  subst framed
  exact ⟨same, distinct, found, (shuffled _ same distinct).trans found, twice⟩

end LeveledLogging.Config
