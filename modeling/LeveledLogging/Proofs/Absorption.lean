import LeveledLogging.Proofs.Places
import Mathlib.Data.List.Nodup
/-! Documents laid over what they lie on already. The members of an object stand in order, so that an
object is known from what is found in it. Laying a document over something a second time changes nothing
(`mergeAgain`). -/
namespace LeveledLogging

namespace Document

theorem mergeEmpty {top : Document} (ordered : top.Ordered) : merge empty top = top := by
  cases ordered with
  | @object members ascending inside =>
    have nothing : Entries.Ascending ([] : Entries Document) := List.Pairwise.nil
    rw [empty, mergeObjects]
    refine congrArg object (Entries.ascendingUnique (ascendingMergeMembers nothing members)
      ascending ?_)
    intro key
    rw [findMergeMembers ascending.nodup]
    exact stackNothing _
  | _ => exact mergeHides (by simp) _

theorem mergeOntoEmpty {below : Document} (kind : below.isObject = true) :
    merge below empty = below := by
  obtain ⟨members, rfl⟩ := isObjectIff.mp kind
  rw [empty, mergeObjects, mergeMembers]

theorem mergeOntoSingle {below top : Document} (single : below.isObject = false)
    (ordered : top.Ordered) : merge below top = merge empty top := by
  rw [mergeReplaces (notObjectIff.mp single), mergeEmpty ordered]

theorem mergeOrdered {below top : Document} (bottom : below.Ordered) (ordered : top.Ordered) :
    (merge below top).Ordered := by
  induction ordered generalizing below with
  | @object members ascending inside ih =>
    cases kind : below.isObject with
    | false =>
      rw [mergeReplaces (notObjectIff.mp kind)]
      exact .object ascending inside
    | true =>
      obtain ⟨others, rfl⟩ := isObjectIff.mp kind
      obtain ⟨ascendingToo, insideToo⟩ : Entries.Ascending others ∧ _ := membersOrdered bottom
      have laid := ascendingMergeMembers ascendingToo members
      rw [mergeObjects]
      refine .object laid ?_
      rintro ⟨key, document⟩ there
      have found := Entries.findMember laid.nodup there
      rw [findMergeMembers ascending.nodup] at found
      cases upper : Entries.find? key members with
      | none =>
        rw [upper, stackMissing] at found
        exact findOrdered insideToo found
      | some t =>
        have here := Entries.findSomeMember upper
        cases lower : Entries.find? key others with
        | none =>
          rw [upper, lower, stackNothing] at found
          cases found
          exact inside _ here
        | some b =>
          rw [upper, lower, stack] at found
          cases found
          exact ih _ here (findOrdered insideToo lower)
  | _ =>
    rw [mergeHides (by simp)]
    constructor <;> assumption

theorem laidOrdered {pile : List Document} (ordered : ∀ document ∈ pile, document.Ordered) :
    ∀ document ∈ laid pile, document.Ordered := by
  induction pile with
  | nil => simp [laid]
  | cons top rest ih =>
    have upper := ordered top List.mem_cons_self
    have lower := ih fun document inside => ordered document (List.mem_cons_of_mem _ inside)
    rw [laid]
    cases below : laid rest with
    | none =>
      rintro document ⟨⟩
      exact upper
    | some there =>
      rintro document ⟨⟩
      exact mergeOrdered (lower there below) upper

theorem mergeAllOrdered {layers : List Document} (ordered : ∀ layer ∈ layers, layer.Ordered) :
    (mergeAll layers).Ordered := by
  refine laidOrdered ?_ _ (laidMergeAll layers)
  intro document inside
  rcases List.mem_append.mp inside with there | bottom
  · exact ordered document (List.mem_reverse.mp there)
  · exact List.mem_singleton.mp bottom ▸ emptyOrdered

theorem mergeAgain {below top : Document} (bottom : below.Ordered) (ordered : top.Ordered) :
    merge (merge below top) top = merge below top := by
  induction ordered generalizing below with
  | @object members ascending inside ih =>
    -- over nothing, a member lies on itself the second time
    have self : ∀ pair ∈ members, merge pair.2 pair.2 = pair.2 := by
      intro pair there
      have again := ih pair there emptyOrdered
      rwa [mergeEmpty (inside pair there)] at again
    have onto : ∀ others : Entries Document, (object others).Ordered →
        merge (merge (object others) (object members)) (object members) =
          merge (object others) (object members) := by
      intro others inOrder
      obtain ⟨ascendingToo, insideToo⟩ : Entries.Ascending others ∧ _ := membersOrdered inOrder
      have laid := ascendingMergeMembers ascendingToo members
      rw [mergeObjects, mergeObjects]
      refine congrArg object (Entries.ascendingUnique (ascendingMergeMembers laid members) laid ?_)
      intro key
      simp only [findMergeMembers ascending.nodup]
      cases upper : Entries.find? key members with
      | none => rw [stackMissing, stackMissing]
      | some t =>
        have there := Entries.findSomeMember upper
        cases lower : Entries.find? key others with
        | none => rw [stackNothing, stack, self _ there]
        | some b => rw [stack, stack, ih _ there (findOrdered insideToo lower)]
    cases kind : below.isObject with
    | true =>
      obtain ⟨others, rfl⟩ := isObjectIff.mp kind
      exact onto others bottom
    | false =>
      rw [mergeOntoSingle kind (.object ascending inside)]
      exact onto [] emptyOrdered
  | _ => rw [mergeHides (by simp), mergeHides (by simp)]

end Document

end LeveledLogging
