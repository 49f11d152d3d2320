import LeveledLogging.Proofs.Environment
import LeveledLogging.Proofs.Merge
/-! The section of the log when the environment is laid over a file. A field that the environment
sets has its value from there, except for the levels, which are united name by name. -/
namespace LeveledLogging

namespace Document

theorem asLevelWord (level : Level) : asLevel (.text level.word) = .ok level := by
  cases level <;> decide

theorem asLevelsObject {document : Document} {levels : LevelTable}
    (decoded : document.asLevels = .ok levels) : ∃ members, document = .object members := by
  cases document with
  | object members => exact ⟨members, rfl⟩
  | _ => contradiction

theorem asLevelsTotal {members : Entries Document}
    (each : ∀ member ∈ members, ∃ level, member.2.asLevel = .ok level) :
    ∃ levels, (object members).asLevels = .ok levels := by
  obtain ⟨pairs, listed⟩ : ∃ pairs, (members.mapM fun member =>
      return (member.1, ← member.2.asLevel) : Except DecodeFault (Entries Level)) = .ok pairs := by
    refine mapMTotal ?_
    rintro ⟨key, document⟩ inside
    obtain ⟨level, read⟩ := each (key, document) inside
    exact ⟨(key, level), returnOk.mpr ⟨level, read, rfl⟩⟩
  exact ⟨.ofList pairs, returnOk.mpr ⟨pairs, listed, rfl⟩⟩

theorem asLevelUnique {document : Option Document} {a b : Option Level}
    (first : Option.Rel (fun document level => asLevel document = .ok level) document a)
    (second : Option.Rel (fun document level => asLevel document = .ok level) document b) :
    a = b := by
  cases first with
  | none => cases second; rfl
  | some here =>
    cases second with
    | some there => rw [Except.ok.inj (here.symm.trans there)]

theorem asLevelsEach {members : Entries Document} (ascending : members.Ascending)
    {level : String → Option Level}
    (each : ∀ key, Option.Rel (fun document level => asLevel document = .ok level)
      (members.find? key) (level key)) :
    ∃ levels, (object members).asLevels = .ok levels ∧ ∀ key, levels.entries.find? key = level key := by
  obtain ⟨levels, done⟩ : ∃ levels, (object members).asLevels = .ok levels := by
    apply asLevelsTotal
    rintro ⟨key, document⟩ inside
    have here := each key
    rw [Entries.findMember ascending.nodup inside] at here
    generalize level key = found at here
    cases here with
    | some read => exact ⟨_, read⟩
  have reads := (asLevelsIff ascending).mp done
  exact ⟨levels, done, fun key => asLevelUnique (reads.find key) (each key)⟩

theorem levelsLaid {members merged : Entries Document} {levels : Entries Level}
    {pairs : List (String × Level)} (ascending : merged.Ascending)
    (decoded : ∀ key, Option.Rel (fun document level => asLevel document = .ok level)
      (members.find? key) (levels.find? key))
    (laid : ∀ key, merged.find? key = stack (members.find? key)
      (((Entries.ofList pairs).find? key).map ofLevel)) :
    ∃ result, (object merged).asLevels = .ok result ∧
      ∀ key, result.entries.find? key = (lastOf pairs key).or (levels.find? key) := by
  refine asLevelsEach ascending ?_
  intro key
  rw [laid, Entries.findOfList]
  cases lastOf pairs key with
  | none => exact decoded key
  | some level =>
    have hidden : stack (members.find? key) (some (ofLevel level)) = some (ofLevel level) := by
      cases members.find? key with
      | none => rfl
      | some below => rw [stack, mergeHides (by simp [ofLevel])]
    rw [Option.map_some, hidden]
    exact .some (asLevelWord level)

end Document

theorem takenOver {α : Type} {read : Document → Except DecodeFault α} {start between value : α}
    {below top : Option Document} (first : Taken read start below between)
    (second : Taken read between top value)
    (single : ∀ document ∈ top, ∀ members, document ≠ .object members) :
    Taken read start (Document.stack below top) value := by
  cases top with
  | none =>
    cases second
    exact first
  | some document =>
    cases below with
    | none => exact second
    | some below =>
      rw [Document.stack, Document.mergeHides (single document rfl)]
      exact second

theorem levelsOver {below : Option Document} {levels : LevelTable}
    (taken : Taken Document.asLevels .empty below levels)
    (ordered : ∀ document ∈ below, document.Ordered) (pairs : List (String × Level)) :
    ∃ laid, Taken Document.asLevels .empty
        (Document.stack below (some (Config.levelsDocument pairs))) laid ∧
      ∀ key, laid.entries.find? key = (lastOf pairs key).or (levels.entries.find? key) := by
  have ascending := (Table.ofList pairs).ascending.mapValues Document.ofLevel
  cases below with
  | none =>
    cases taken
    have nothing : ∀ key, Option.Rel (fun document level => Document.asLevel document = .ok level)
        (Entries.find? key []) (Entries.find? key []) := fun _ => .none
    refine Document.levelsLaid ascending nothing ?_
    intro key
    rw [Entries.findMapValues]
    exact (Document.stackNothing _).symm
  | some document =>
    obtain ⟨members, rfl⟩ := Document.asLevelsObject taken
    cases ordered _ rfl with
    | object inOrder inside =>
      have reads := (Document.asLevelsIff inOrder).mp taken
      rw [Document.stack, Config.levelsDocument, Document.ofLevels, Document.mergeObjects]
      refine Document.levelsLaid (Document.ascendingMergeMembers inOrder _) reads.find ?_
      intro key
      rw [Document.findMergeMembers ascending.nodup, Entries.findMapValues]
      rfl

end LeveledLogging
