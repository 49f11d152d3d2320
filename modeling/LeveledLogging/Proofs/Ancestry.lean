import LeveledLogging.Proofs.Loading
import LeveledLogging.Proofs.Octets
import Mathlib.Data.List.Induction
import Mathlib.Logic.Relation
/-! The order in which overrides are set. They stand in the order of the octets of their dotted names,
which does not go segment by segment: a character before the dot brings a name in front of those below
its neighbour. The dotted name of a name above another one starts that of the other, though, so that it
stands in front of it whatever the segments are (`parentsBeforeChildren`). -/
namespace LeveledLogging

namespace LoggerName

def IsAbove (a b : LoggerName) : Prop := a.segments <+: b.segments ∧ a ≠ b

instance (a b : LoggerName) : Decidable (a.IsAbove b) := inferInstanceAs (Decidable (_ ∧ _))

theorem IsAbove.shorter {a b : LoggerName} (isAbove : a.IsAbove b) : a.depth < b.depth := by
  obtain ⟨onWay, other⟩ := isAbove
  refine Nat.lt_of_le_of_ne onWay.length_le fun same => other ?_
  exact segmentsInjective a b (onWay.eq_of_length same)

theorem IsAbove.trans {a b c : LoggerName} (first : a.IsAbove b) (second : b.IsAbove c) :
    a.IsAbove c := by
  refine ⟨first.1.trans second.1, ?_⟩
  rintro rfl
  exact Nat.lt_asymm first.shorter second.shorter

theorem parentIsAbove {above name : LoggerName} (parent : name.parent = some above) :
    above.IsAbove name := by
  unfold LoggerName.parent at parent
  split at parent
  · contradiction
  · rename_i below
    cases parent
    refine ⟨List.dropLast_prefix _, fun same => ?_⟩
    have filled : 0 < name.segments.length := List.length_pos_iff.mpr below
    have lengths : name.segments.dropLast.length = name.segments.length := congrArg depth same
    rw [List.length_dropLast] at lengths
    omega

theorem isAboveParents {a b : LoggerName} :
    a.IsAbove b ↔ Relation.TransGen (fun above name => name.parent = some above) a b := by
  constructor
  · rintro ⟨⟨rest, parts⟩, other⟩
    induction rest using List.reverseRecOn generalizing b with
    | nil =>
      rw [List.append_nil] at parts
      exact absurd (segmentsInjective a b parts) other
    | append_singleton front last ih =>
      have segments : b.segments.dropLast = a.segments ++ front := by
        rw [← parts, ← List.append_assoc, List.dropLast_concat]
      have below : b.segments ≠ [] := by
        rw [← parts]
        simp
      obtain ⟨above, parent, same⟩ : ∃ above, b.parent = some above ∧
          above.segments = a.segments ++ front := by
        rw [LoggerName.parent, if_neg below]
        exact ⟨_, rfl, segments⟩
      by_cases here : a = above
      · rw [here]
        exact .single parent
      · exact .tail (ih here same.symm) parent
  · intro parents
    induction parents with
    | single parent => exact parentIsAbove parent
    | tail _ parent ih => exact ih.trans (parentIsAbove parent)

theorem dotsPrefix {p q : List String} (onWay : p <+: q) : (dots p).toList <+: (dots q).toList := by
  obtain ⟨rest, rfl⟩ := onWay
  unfold dots Text.join
  rw [String.toList_ofList, String.toList_ofList, List.map_append]
  by_cases root : p = []
  · rw [root]
    exact List.nil_prefix
  by_cases whole : rest = []
  · simp [whole]
  · rw [Text.joinCharsAppend (by simp [root]) (by simp [whole])]
    exact List.prefix_append _ _

theorem IsAbove.dottedLess {a b : LoggerName} (isAbove : a.IsAbove b) : a.dotted < b.dotted := by
  obtain ⟨onWay, other⟩ := isAbove
  obtain ⟨rest, longer⟩ := dotsPrefix onWay
  have notAfter : a.dotted ≤ b.dotted := by
    refine String.not_lt.mp fun less => ?_
    have after : b.dotted.toList < a.dotted.toList := String.lt_iff.mp less
    rw [dotted, ← longer] at after
    exact absurd after (List.le_append_left)
  exact Std.lt_of_le_of_ne notAfter fun same => other (dottedInjective same)

end LoggerName

namespace Settings

theorem overridesLevels {settings : Settings} {overrides : List (LoggerName × Level)}
    (valid : settings.overrides = .ok overrides) :
    settings.levels.keys = overrides.map fun setting => setting.1.dotted := by
  rw [overridesIff.mp valid, Entries.keys, List.map_map]
  rfl

theorem parentsBeforeChildren {settings : Settings} (named : settings.WellNamed) :
    ∃ overrides, settings.overrides = .ok overrides ∧
      settings.levels = overrides.map (fun setting => (setting.1.dotted, setting.2)) ∧
      (overrides.map Prod.fst).Nodup ∧
      (overrides.map fun setting => Text.octets setting.1.dotted).Pairwise (· < ·) ∧
      ∀ i j (first : i < overrides.length) (second : j < overrides.length),
        overrides[i].1.IsAbove overrides[j].1 → i < j := by
  obtain ⟨overrides, valid⟩ := overridesOk named
  have inOrder : overrides.Pairwise fun a b => a.1.dotted < b.1.dotted := by
    have ascending : settings.levels.keys.Pairwise (· < ·) := settings.ascending
    rw [overridesLevels valid] at ascending
    exact List.pairwise_map.mp ascending
  refine ⟨overrides, valid, overridesIff.mp valid, ?_, ?_, ?_⟩
  · refine List.pairwise_map.mpr (inOrder.imp ?_)
    intro a b less same
    rw [same] at less
    exact String.lt_irrefl _ less
  · refine List.pairwise_map.mpr (inOrder.imp ?_)
    intro a b less
    exact Text.octetsLess.mpr less
  · intro i j first second isAbove
    by_contra notBefore
    have less := isAbove.dottedLess
    rcases Nat.lt_or_eq_of_le (Nat.le_of_not_lt notBefore) with before | same
    · have more := List.pairwise_iff_getElem.mp inOrder j i second first before
      exact String.lt_asymm less more
    · subst same
      exact isAbove.2 rfl

/- The hyphen sorts before the dot, so that another name comes between a name and the one below it. -/
theorem siblingBetween :
    let settings : Settings := ⟨0, none, false, .full,
      ⟨[("", .notice), ("a", .info), ("a-b", .debug), ("a.b", .error)], by decide⟩⟩
    let a : LoggerName := ⟨["a"], by decide⟩
    let other : LoggerName := ⟨["a-b"], by decide⟩
    let below : LoggerName := ⟨["a", "b"], by decide⟩
    settings.WellNamed ∧ a.IsAbove below ∧ ¬ a.IsAbove other ∧
      ∃ overrides, settings.overrides = .ok overrides ∧
        overrides = [(.root, .notice), (a, .info), (other, .debug), (below, .error)] ∧
        (overrides.map Prod.fst).Nodup ∧
        ∀ i j (first : i < overrides.length) (second : j < overrides.length),
          overrides[i].1.IsAbove overrides[j].1 → i < j := by
  intro settings a other below
  have named : settings.WellNamed := by
    intro key inside
    have listed : key = "" ∨ key = "a" ∨ key = "a-b" ∨ key = "a.b" := by
      simpa [settings, levels, Entries.keys] using inside
    rcases listed with rfl | rfl | rfl | rfl
    · exact ⟨.root, by decide⟩
    · exact ⟨a, by decide⟩
    · exact ⟨other, by decide⟩
    · exact ⟨below, by decide⟩
  have four : settings.overrides =
      .ok [(.root, .notice), (a, .info), (other, .debug), (below, .error)] := by decide
  obtain ⟨overrides, valid, _, distinct, _, before⟩ := parentsBeforeChildren named
  have same := Except.ok.inj (valid.symm.trans four)
  exact ⟨named, by decide, by decide, overrides, valid, same, distinct, before⟩

end Settings

end LeveledLogging
