import LeveledLogging.Settings
import LeveledLogging.Entries
import LeveledLogging.Proofs.Results
/-! Settings out of the members of an object. Decoding goes through the members in their order; where
no key is repeated it comes to five values that are each taken from their own key, or left as they
were (`ofObjectTakes`). Levels are taken key by key. -/
namespace LeveledLogging

def Taken {α : Type} (read : Document → Except DecodeFault α) (otherwise : α) :
    Option Document → α → Prop
  | none, value => otherwise = value
  | some document, value => read document = .ok value

namespace Settings

structure Takes (members : Entries Document) (start settings : Settings) : Prop where
  verbosity : Taken Document.asInt32 start.verbosity (members.find? "verbosity") settings.verbosity
  path : Taken (Document.asOptional Document.asPath) start.path (members.find? "path") settings.path
  trace : Taken Document.asBoolean start.trace (members.find? "trace") settings.trace
  format : Taken LineFormat.read start.format (members.find? "format") settings.format
  levels : Taken Document.asLevels start.table (members.find? "levels") settings.table

theorem takesIff {members : Entries Document} {start settings : Settings} :
    Takes members start settings ↔
      Taken Document.asInt32 start.verbosity (members.find? "verbosity") settings.verbosity ∧
      Taken (Document.asOptional Document.asPath) start.path (members.find? "path") settings.path ∧
      Taken Document.asBoolean start.trace (members.find? "trace") settings.trace ∧
      Taken LineFormat.read start.format (members.find? "format") settings.format ∧
      Taken Document.asLevels start.table (members.find? "levels") settings.table :=
  ⟨fun ⟨a, b, c, d, e⟩ => ⟨a, b, c, d, e⟩, fun ⟨a, b, c, d, e⟩ => ⟨a, b, c, d, e⟩⟩

theorem setMemberTakes {start next : Settings} {key : String} {value : Document} :
    start.setMember key value = .ok next ↔ Takes [(key, value)] start next := by
  obtain ⟨verbosity, path, trace, format, table⟩ := next
  have single : ∀ other, Entries.find? other [(key, value)] = if key = other then some value else none :=
    fun other => Entries.findCons other (key, value) []
  rw [takesIff]
  simp only [single]
  unfold setMember
  split
  case h_6 notVerbosity notPath notTrace notFormat notLevels =>
    rw [if_neg notVerbosity, if_neg notPath, if_neg notTrace, if_neg notFormat, if_neg notLevels]
    obtain ⟨_, _, _, _, _⟩ := start
    simp [Taken, pure, Except.pure]
  all_goals
    rw [returnOk]
    simp only [Taken, reduceIte, String.reduceEq, mk.injEq]
    constructor
    · rintro ⟨_, read, same⟩
      simp_all
    · intro taken
      simp_all

theorem takenCons {α : Type} {read : Document → Except DecodeFault α} {start value : α}
    {pair : String × Document} {rest : Entries Document} (fresh : pair.1 ∉ rest.keys)
    (field : String) :
    Taken read start (Entries.find? field (pair :: rest)) value ↔
      ∃ between, Taken read start (Entries.find? field [pair]) between ∧
        Taken read between (Entries.find? field rest) value := by
  rw [Entries.findCons, Entries.findCons]
  by_cases here : pair.1 = field
  · have absent : Entries.find? field rest = none := Entries.findNone.mpr (here ▸ fresh)
    simp [here, absent, Taken]
  · simp [here, Entries.find?, Taken]

theorem foldTakes {members : Entries Document} (distinct : members.keys.Nodup)
    {start settings : Settings} :
    members.foldlM (fun settings (key, value) => settings.setMember key value) start = .ok settings ↔
      Takes members start settings := by
  induction members generalizing start with
  | nil =>
    obtain ⟨_, _, _, _, _⟩ := start
    obtain ⟨_, _, _, _, _⟩ := settings
    simp [pure, Except.pure, takesIff, Entries.find?, Taken]
  | cons pair rest ih =>
    obtain ⟨fresh, tail⟩ := List.nodup_cons.mp distinct
    rw [List.foldlM_cons, bindOk]
    simp only [setMemberTakes, ih tail]
    simp only [takesIff, takenCons fresh]
    constructor
    · rintro ⟨next, ⟨a, b, c, d, e⟩, v, p, t, f, l⟩
      exact ⟨⟨_, a, v⟩, ⟨_, b, p⟩, ⟨_, c, t⟩, ⟨_, d, f⟩, ⟨_, e, l⟩⟩
    · rintro ⟨⟨_, a, v⟩, ⟨_, b, p⟩, ⟨_, c, t⟩, ⟨_, d, f⟩, ⟨_, e, l⟩⟩
      exact ⟨⟨_, _, _, _, _⟩, ⟨a, b, c, d, e⟩, v, p, t, f, l⟩

theorem ofObjectTakes {members : Entries Document} (distinct : members.keys.Nodup)
    {settings : Settings} :
    ofDocument (.object members) = .ok settings ↔ Takes members .standard settings :=
  foldTakes distinct

end Settings

namespace Document

def Reads (members : Entries Document) (levels : Entries Level) : Prop :=
  List.Forall₂ (fun member level => member.1 = level.1 ∧ member.2.asLevel = .ok level.2) members levels

theorem Reads.keys {members : Entries Document} {levels : Entries Level}
    (reads : Reads members levels) : levels.keys = members.keys := by
  induction reads with
  | nil => rfl
  | cons same _ ih =>
    rw [Entries.keys, Entries.keys, List.map_cons, List.map_cons, same.1]
    exact congrArg _ ih

theorem Reads.find {members : Entries Document} {levels : Entries Level}
    (reads : Reads members levels) (key : String) :
    Option.Rel (fun document level => document.asLevel = .ok level) (members.find? key)
      (levels.find? key) := by
  induction reads with
  | nil => exact .none
  | cons same _ ih =>
    rw [Entries.findCons, Entries.findCons, same.1]
    split
    · exact .some same.2
    · exact ih

theorem readsIff {members : Entries Document} {levels : Entries Level} :
    (members.mapM fun (key, document) => return (key, ← document.asLevel) :
      Except DecodeFault (Entries Level)) = .ok levels ↔ Reads members levels := by
  rw [mapMOk]
  constructor
  · intro decoded
    refine decoded.imp ?_
    rintro ⟨key, document⟩ ⟨name, level⟩ decoded
    obtain ⟨_, read, same⟩ := returnOk.mp decoded
    cases same
    exact ⟨rfl, read⟩
  · intro decoded
    refine decoded.imp ?_
    rintro ⟨key, document⟩ ⟨name, level⟩ ⟨same, read⟩
    cases same
    exact returnOk.mpr ⟨level, read, rfl⟩

theorem asLevelsIff {members : Entries Document} (ascending : members.Ascending)
    {levels : LevelTable} :
    (object members).asLevels = .ok levels ↔ Reads members levels.entries := by
  rw [asLevels, returnOk]
  constructor
  · rintro ⟨pairs, listed, rfl⟩
    have reads := readsIff.mp listed
    have inOrder : Entries.Ascending pairs := by
      rw [Entries.Ascending, reads.keys]
      exact ascending
    rw [Table.ofListAscending inOrder]
    exact reads
  · intro reads
    exact ⟨levels.entries, readsIff.mpr reads, Table.ofListEntries levels⟩

end Document

end LeveledLogging
