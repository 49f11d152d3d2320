import LeveledLogging.Proofs.Loading
/-! Settings read back from their document. Each field is written so that its reader knows it again, and
left out only where the standard value says the same. A document that has lost members or has got others
that nobody knows therefore still gives the settings, exactly if no member is lost that differs from the
one of the standard settings (`recoveredFromDocument`). -/
namespace LeveledLogging

/- A field that is read back: from the member it is written as, and from nothing if it is left out. -/
structure TakesBack {α : Type} (read : Document → Except DecodeFault α) (otherwise : α)
    (write : α → Option Document) : Prop where
  written : ∀ value document, write value = some document → read document = .ok value
  unwritten : ∀ value, write value = none → value = otherwise

theorem TakesBack.taken {α : Type} {read : Document → Except DecodeFault α} {otherwise value : α}
    {write : α → Option Document} (back : TakesBack read otherwise write) {member : Option Document}
    (kept : ∀ document, member = some document → write value = some document) :
    Taken read otherwise member value ↔ (member = none → write value = write otherwise) := by
  cases member with
  | some document =>
    have taken : read document = .ok value := back.written value document (kept document rfl)
    constructor
    · intro _ lost
      contradiction
    · intro _
      exact taken
  | none =>
    constructor
    · intro same _
      exact congrArg write same.symm
    · intro lost
      cases here : write value with
      | none => exact (back.unwritten value here).symm
      | some document =>
        have there : write otherwise = some document := (lost rfl).symm.trans here
        have standard := back.written otherwise document there
        exact Except.ok.inj (standard.symm.trans (back.written value document here))

theorem TakesBack.own {α : Type} {read : Document → Except DecodeFault α} {otherwise : α}
    {write : α → Option Document} (back : TakesBack read otherwise write) (value : α) :
    Taken read otherwise (write value) value := by
  cases member : write value with
  | some document => exact back.written value document member
  | none => exact (back.unwritten value member).symm

namespace Settings

def verbosityMember (verbosity : Int32) : Option Document := some (.integer verbosity.toInt)

def pathMember (path : Option String) : Option Document := path.map .text

def traceMember (trace : Bool) : Option Document := some (.boolean trace)

def formatMember (format : LineFormat) : Option Document := some (.text format.word)

def levelsMember (levels : LevelTable) : Option Document :=
  if levels.entries = [] then none else some (.ofLevels levels)

theorem verbosityBack : TakesBack Document.asInt32 standard.verbosity verbosityMember where
  written := by
    rintro verbosity document ⟨⟩
    exact Config.asInt32Integer verbosity
  unwritten := by
    rintro verbosity ⟨⟩

theorem pathBack : TakesBack (Document.asOptional Document.asPath) standard.path pathMember where
  written := by
    intro path document member
    obtain ⟨s, rfl, rfl⟩ := Option.map_eq_some_iff.mp member
    rfl
  unwritten := by
    intro path member
    exact Option.map_eq_none_iff.mp member

theorem traceBack : TakesBack Document.asBoolean standard.trace traceMember where
  written := by
    rintro trace document ⟨⟩
    rfl
  unwritten := by
    rintro trace ⟨⟩

theorem formatBack : TakesBack LineFormat.read standard.format formatMember where
  written := by
    rintro format document ⟨⟩
    cases format <;> decide
  unwritten := by
    rintro format ⟨⟩

theorem readsWords (levels : Entries Level) :
    Document.Reads (levels.mapValues Document.ofLevel) levels := by
  induction levels with
  | nil => exact .nil
  | cons pair rest ih => exact .cons ⟨rfl, Document.asLevelWord pair.2⟩ ih

theorem levelsBack : TakesBack Document.asLevels standard.table levelsMember where
  written := by
    intro levels document member
    unfold levelsMember at member
    split at member
    · contradiction
    · cases member
      have ascending := levels.ascending.mapValues Document.ofLevel
      exact (Document.asLevelsIff ascending).mpr (readsWords levels.entries)
  unwritten := by
    intro levels member
    unfold levelsMember at member
    split at member
    · rename_i nothing
      exact Table.ext nothing
    · contradiction

theorem toDocumentMembers (settings : Settings) :
    settings.toDocument.members.find? "verbosity" = verbosityMember settings.verbosity ∧
      settings.toDocument.members.find? "path" = pathMember settings.path ∧
      settings.toDocument.members.find? "trace" = traceMember settings.trace ∧
      settings.toDocument.members.find? "format" = formatMember settings.format ∧
      settings.toDocument.members.find? "levels" = levelsMember settings.table := by
  obtain ⟨verbosity, path, trace, format, table⟩ := settings
  unfold toDocument verbosityMember pathMember traceMember formatMember levelsMember levels
  have nothing : ∀ key, Entries.find? key ([] : Entries Document) = none := fun _ => rfl
  simp only [Document.members]
  by_cases unset : table.entries = []
  · cases path <;> simp [unset, Entries.findCons, nothing]
  · cases path <;> simp [unset, Entries.findCons, nothing]

theorem toDocumentDistinct (settings : Settings) : settings.toDocument.members.keys.Nodup := by
  obtain ⟨verbosity, path, trace, format, table⟩ := settings
  unfold toDocument levels
  by_cases unset : table.entries = []
  · cases path <;> simp [unset, Document.members, Entries.keys]
  · cases path <;> simp [unset, Document.members, Entries.keys]

def Agree (members : Entries Document) (settings : Settings) : Prop :=
  members.keys.Nodup ∧
    ∀ key ∈ places, ∀ document, members.find? key = some document →
      settings.toDocument.members.find? key = some document

theorem takesAgreed {members : Entries Document} {settings : Settings}
    (agree : Agree members settings) :
    Takes members standard settings ↔
      ∀ key ∈ places, members.find? key = none →
        settings.toDocument.members.find? key = standard.toDocument.members.find? key := by
  have kept := agree.2
  obtain ⟨verbosity, path, trace, format, levels⟩ := toDocumentMembers settings
  obtain ⟨verbosity', path', trace', format', levels'⟩ := toDocumentMembers standard
  simp only [places, List.forall_mem_cons, verbosity, path, trace, format, levels] at kept
  obtain ⟨keptVerbosity, keptPath, keptTrace, keptFormat, keptLevels, _⟩ := kept
  rw [takesIff, verbosityBack.taken keptVerbosity, pathBack.taken keptPath,
    traceBack.taken keptTrace, formatBack.taken keptFormat, levelsBack.taken keptLevels]
  simp only [places, List.forall_mem_cons, verbosity, path, trace, format, levels, verbosity', path',
    trace', format', levels']
  simp

theorem recoveredFromDocument (settings : Settings) :
    ofDocument settings.toDocument = .ok settings ∧
      ∀ members, Agree members settings →
        (ofDocument (.object members) = .ok settings ↔
          ∀ key ∈ places, members.find? key = none →
            settings.toDocument.members.find? key = standard.toDocument.members.find? key) := by
  refine ⟨?_, fun members agree => by rw [ofObjectTakes agree.1, takesAgreed agree]⟩
  refine (ofObjectTakes (toDocumentDistinct settings)).mpr ?_
  obtain ⟨verbosity, path, trace, format, levels⟩ := toDocumentMembers settings
  constructor
  · exact verbosity ▸ verbosityBack.own settings.verbosity
  · exact path ▸ pathBack.own settings.path
  · exact trace ▸ traceBack.own settings.trace
  · exact format ▸ formatBack.own settings.format
  · exact levels ▸ levelsBack.own settings.table

theorem recoveredFromLess :
    let settings : Settings := ⟨1, some "a.log", false, .full, ⟨[("a..b", .debug)], by decide⟩⟩
    let members : Entries Document := [("colour", .null),
      ("levels", .object [("a..b", .text "debug")]), ("verbosity", .integer 1), ("path", .text "a.log")]
    Agree members settings ∧ ofDocument settings.toDocument = .ok settings ∧
      ofDocument (.object members) = .ok settings := by
  intro settings members
  have agree : Agree members settings := by
    refine ⟨by decide, ?_⟩
    intro key inside document found
    simp only [places, List.mem_cons, List.not_mem_nil, or_false] at inside
    rcases inside with rfl | rfl | rfl | rfl | rfl
    · exact found
    · exact found
    · cases found
    · cases found
    · exact found
  obtain ⟨back, thinned⟩ := recoveredFromDocument settings
  refine ⟨agree, back, (thinned members agree).mpr ?_⟩
  intro key inside lost
  simp only [places, List.mem_cons, List.not_mem_nil, or_false] at inside
  rcases inside with rfl | rfl | rfl | rfl | rfl
  · cases lost
  · cases lost
  · rfl
  · rfl
  · cases lost

end Settings

end LeveledLogging
