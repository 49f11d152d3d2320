import LeveledLogging.Document
import LeveledLogging.Entries
/-! Documents laid over each other, key by key. What lies on top must not repeat a key: a repeated
one would be laid over itself. -/
namespace LeveledLogging.Document

def stack : Option Document → Option Document → Option Document
  | below, none => below
  | none, some top => some top
  | some below, some top => some (merge below top)

theorem stackNothing (top : Option Document) : stack none top = top := by
  cases top <;> rfl

theorem stackMissing (below : Option Document) : stack below none = below := by
  cases below <;> rfl

theorem findMergeMembers {top : Entries Document} (distinct : top.keys.Nodup)
    (members : Entries Document) (key : String) :
    Entries.find? key (mergeMembers members top) =
      stack (Entries.find? key members) (Entries.find? key top) := by
  induction top generalizing members with
  | nil =>
    rw [mergeMembers]
    rfl
  | cons pair rest ih =>
    obtain ⟨k, value⟩ := pair
    obtain ⟨fresh, tail⟩ := List.nodup_cons.mp distinct
    rw [mergeMembers, ih tail, Entries.findInsert, Entries.findCons]
    by_cases same : k = key
    · subst same
      have absent : Entries.find? k rest = none := Entries.findNone.mpr fresh
      rw [if_pos rfl, if_pos rfl, absent]
      cases Entries.find? k members <;> rfl
    · rw [if_neg (Ne.symm same), if_neg same]

theorem ascendingMergeMembers {members : Entries Document} (ascending : members.Ascending)
    (top : Entries Document) : (mergeMembers members top).Ascending := by
  induction top generalizing members with
  | nil =>
    rw [mergeMembers]
    exact ascending
  | cons pair rest ih =>
    rw [mergeMembers]
    exact ih (Entries.ascendingInsert ascending _ _)

theorem mergeHides {top : Document} (single : ∀ members, top ≠ .object members)
    (below : Document) : merge below top = top := by
  cases top with
  | object members => exact absurd rfl (single members)
  | _ => cases below <;> rw [merge] <;> simp

theorem mergeObjects (members top : Entries Document) :
    merge (.object members) (.object top) = .object (mergeMembers members top) := by
  rw [merge]

theorem memberMergeAll {layers : List Document}
    (objects : ∀ layer ∈ layers, ∃ members : Entries Document,
      layer = .object members ∧ members.keys.Nodup) (key : String) :
    (mergeAll layers).member? key = (layers.map (member? key)).foldl stack none := by
  have onto : ∀ members : Entries Document, (layers.foldl merge (.object members)).member? key =
      (layers.map (member? key)).foldl stack (members.find? key) := by
    induction layers with
    | nil => exact fun _ => rfl
    | cons layer rest ih =>
      intro members
      obtain ⟨top, rfl, distinct⟩ := objects layer List.mem_cons_self
      rw [List.foldl_cons, mergeObjects, List.map_cons, List.foldl_cons]
      rw [ih (fun other inside => objects other (List.mem_cons_of_mem _ inside)),
        findMergeMembers distinct]
      rfl
  exact onto []

inductive Holds : Option Document → Entries Document → Prop where
  | absent : Holds none []
  | given (members : Entries Document) : Holds (some (.object members)) members

theorem Holds.asObject {document : Option Document} {members : Entries Document}
    (holds : Holds document members) : document.getD .empty = .object members := by
  cases holds <;> rfl

theorem stackHolds {below top : Option Document} {members laid : Entries Document}
    (holdsBelow : Holds below members) (holdsTop : Holds top laid) (ascending : members.Ascending)
    (ascendingTop : laid.Ascending) :
    ∃ merged, Holds (stack below top) merged ∧ merged.Ascending ∧
      ∀ key, merged.find? key = stack (members.find? key) (laid.find? key) := by
  cases holdsTop with
  | absent => exact ⟨members, holdsBelow, ascending, fun _ => rfl⟩
  | given =>
    cases holdsBelow with
    | absent => exact ⟨laid, .given laid, ascendingTop, fun key => (stackNothing _).symm⟩
    | given =>
      refine ⟨mergeMembers members laid, ?_, ascendingMergeMembers ascending laid,
        findMergeMembers ascendingTop.nodup members⟩
      rw [stack, mergeObjects]
      exact .given _

end LeveledLogging.Document
