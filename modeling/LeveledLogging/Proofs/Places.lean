import LeveledLogging.Proofs.Merge
import Mathlib.Data.List.TakeWhile
/-! Places in documents that are laid over each other. Of the documents in a pile, the topmost objects
come together and whatever they lie on is hidden; `standing` follows this down to a place, and what the
whole pile comes to there is what the documents left standing come to (`followLaid`). -/
namespace LeveledLogging.Document

theorem stepOrdered {document found : Document} (ordered : document.Ordered) {part : String}
    (there : document.step part = some found) : found.Ordered := by
  cases ordered with
  | object ascending inside => exact findOrdered inside there
  | list inside =>
    obtain ⟨index, _, there⟩ := Option.bind_eq_some_iff.mp there
    exact inside _ (List.mem_of_getElem? there)
  | _ => contradiction

theorem mergeReplaces {below : Document} (single : ∀ members, below ≠ object members)
    (top : Document) : merge below top = top := by
  cases below with
  | object members => exact absurd rfl (single members)
  | _ => cases top <;> rw [merge] <;> simp

def isObject : Document → Bool
  | object _ => true
  | _ => false

theorem isObjectIff {document : Document} :
    document.isObject = true ↔ ∃ members, document = object members := by
  cases document <;> simp [isObject]

theorem notObjectIff {document : Document} :
    document.isObject = false ↔ ∀ members, document ≠ object members := by
  cases document <;> simp [isObject]

def laid : List Document → Option Document
  | [] => none
  | top :: rest => stack (laid rest) (some top)

/- What of some documents, the highest first, is to be seen in what they come to: objects above
everything else, or the highest one. -/
def visible : List Document → List Document
  | [] => []
  | top :: rest => if top.isObject = true then top :: rest.takeWhile isObject else [top]

def standing : List String → List Document → List Document
  | [], pile => visible pile
  | part :: rest, pile => standing rest ((visible pile).filterMap (step part))

theorem laidNone {pile : List Document} : laid pile = none ↔ pile = [] := by
  cases pile with
  | nil => simp [laid]
  | cons top rest => cases below : laid rest <;> simp [laid, below, stack]

theorem laidTop {top : Document} (single : top.isObject = false) (rest : List Document) :
    laid (top :: rest) = some top := by
  rw [laid]
  cases laid rest with
  | none => rfl
  | some below => rw [stack, mergeHides (notObjectIff.mp single)]

theorem laidOverHidden {top below : Document} (single : below.isObject = false)
    (rest : List Document) : laid (top :: below :: rest) = some top := by
  rw [laid, laidTop single, stack, mergeReplaces (notObjectIff.mp single)]

theorem laidTakeWhile (top : Document) (rest : List Document) :
    laid (top :: rest.takeWhile isObject) = laid (top :: rest) := by
  induction rest generalizing top with
  | nil => rfl
  | cons below rest ih =>
    cases kind : below.isObject with
    | true => rw [List.takeWhile_cons_of_pos kind, laid, ih, ← laid]
    | false =>
      rw [List.takeWhile_cons_of_neg (by simp [kind]), laidOverHidden kind]
      rfl

theorem laidVisible (pile : List Document) : laid (visible pile) = laid pile := by
  cases pile with
  | nil => rfl
  | cons top rest =>
    rw [visible]
    cases kind : top.isObject with
    | true => exact laidTakeWhile top rest
    | false => exact (laidTop kind []).trans (laidTop kind rest).symm

theorem stackStep {below : Option Document} {top : Entries Document} (ascending : top.Ascending)
    (objects : ∀ document ∈ below, document.isObject = true) (part : String) :
    (stack below (some (object top))).bind (step part) =
      stack (below.bind (step part)) (step part (object top)) := by
  cases below with
  | none => exact (stackNothing _).symm
  | some document =>
    obtain ⟨members, rfl⟩ := isObjectIff.mp (objects document rfl)
    rw [stack, mergeObjects]
    exact findMergeMembers ascending.nodup members part

theorem laidObjects {pile : List Document} (objects : ∀ document ∈ pile, document.isObject = true) :
    ∀ document ∈ laid pile, document.isObject = true := by
  induction pile with
  | nil => simp [laid]
  | cons top rest ih =>
    obtain ⟨members, rfl⟩ := isObjectIff.mp (objects top List.mem_cons_self)
    have below := ih fun document inside => objects document (List.mem_cons_of_mem _ inside)
    intro document found
    rw [laid] at found
    cases lower : laid rest with
    | none =>
      rw [lower] at found
      cases found
      rfl
    | some there =>
      obtain ⟨others, rfl⟩ := isObjectIff.mp (below there lower)
      rw [lower, stack, mergeObjects] at found
      cases found
      rfl

theorem stepLaid {pile : List Document} (ordered : ∀ document ∈ pile, document.Ordered)
    (objects : ∀ document ∈ pile, document.isObject = true) (part : String) :
    (laid pile).bind (step part) = laid (pile.filterMap (step part)) := by
  induction pile with
  | nil => rfl
  | cons top rest ih =>
    have others := fun document inside => objects document (List.mem_cons_of_mem _ inside)
    have below := ih (fun document inside => ordered document (List.mem_cons_of_mem _ inside)) others
    obtain ⟨members, rfl⟩ := isObjectIff.mp (objects top List.mem_cons_self)
    have ascending : Entries.Ascending members := (membersOrdered (ordered _ List.mem_cons_self)).1
    rw [laid, stackStep ascending (laidObjects others), below]
    cases found : step part (object members) with
    | none => rw [List.filterMap_cons_none found, stackMissing]
    | some there => rw [List.filterMap_cons_some found, laid]

theorem visiblePrefix (pile : List Document) : visible pile <+: pile := by
  cases pile with
  | nil => exact List.prefix_refl _
  | cons top rest =>
    rw [visible]
    split
    · exact List.cons_prefix_cons.mpr ⟨rfl, List.takeWhile_prefix _⟩
    · exact List.cons_prefix_cons.mpr ⟨rfl, List.nil_prefix⟩

theorem visibleKinds (pile : List Document) :
    (∃ top, top.isObject = false ∧ visible pile = [top]) ∨
      ∀ document ∈ visible pile, document.isObject = true := by
  cases pile with
  | nil => exact .inr (by simp [visible])
  | cons top rest =>
    cases kind : top.isObject with
    | false => exact .inl ⟨top, kind, by simp [visible, kind]⟩
    | true =>
      refine .inr ?_
      rw [visible, if_pos kind]
      intro document inside
      rcases List.mem_cons.mp inside with rfl | inside
      · exact kind
      · exact List.mem_takeWhile_imp inside

theorem stepVisible {pile : List Document} (ordered : ∀ document ∈ pile, document.Ordered)
    (part : String) :
    (laid pile).bind (step part) = laid ((visible pile).filterMap (step part)) := by
  rw [← laidVisible]
  rcases visibleKinds pile with ⟨top, kind, alone⟩ | objects
  · rw [alone, laidTop kind, Option.bind_some]
    cases found : top.step part with
    | none =>
      rw [List.filterMap_cons_none found]
      rfl
    | some there =>
      rw [List.filterMap_cons_some found]
      rfl
  · exact stepLaid (fun document inside => ordered document ((visiblePrefix pile).mem inside))
      objects part

theorem followLaid {pile : List Document} (ordered : ∀ document ∈ pile, document.Ordered)
    (parts : List String) : (laid pile).bind (follow parts) = laid (standing parts pile) := by
  induction parts generalizing pile with
  | nil =>
    rw [standing, laidVisible]
    cases laid pile <;> rfl
  | cons part rest ih =>
    have below : ∀ document ∈ (visible pile).filterMap (step part), document.Ordered := by
      intro document inside
      obtain ⟨above, there, found⟩ := List.mem_filterMap.mp inside
      exact stepOrdered (ordered above ((visiblePrefix pile).mem there)) found
    calc (laid pile).bind (follow (part :: rest))
        = ((laid pile).bind (step part)).bind (follow rest) := (Option.bind_assoc ..).symm
      _ = (laid ((visible pile).filterMap (step part))).bind (follow rest) := by
          rw [stepVisible ordered]
      _ = laid (standing (part :: rest) pile) := ih below

theorem standingPrefix (parts : List String) (pile : List Document) :
    standing parts pile <+: pile.filterMap (follow parts) := by
  induction parts generalizing pile with
  | nil =>
    have all : pile.filterMap (follow []) = pile := List.filterMap_some
    rw [all]
    exact visiblePrefix pile
  | cons part rest ih =>
    have below := ih ((visible pile).filterMap (step part))
    rw [List.filterMap_filterMap] at below
    exact below.trans ((visiblePrefix pile).filterMap _)

theorem standingKinds (parts : List String) (pile : List Document) :
    (∃ top, top.isObject = false ∧ standing parts pile = [top]) ∨
      ∀ document ∈ standing parts pile, document.isObject = true := by
  induction parts generalizing pile with
  | nil => exact visibleKinds pile
  | cons part rest ih => exact ih _

theorem standingAlone {parts : List String} {pile : List Document} {value : Document}
    (single : value.isObject = false) :
    laid (standing parts pile) = some value ↔ standing parts pile = [value] := by
  constructor
  · intro found
    rcases standingKinds parts pile with ⟨top, kind, alone⟩ | objects
    · rw [alone, laidTop kind] at found
      rw [alone, Option.some.inj found]
    · rw [laidObjects objects value found] at single
      contradiction
  · intro alone
    rw [alone]
    exact laidTop single []

theorem laidOnto (pile : List Document) (bottom : Document) :
    laid (pile ++ [bottom]) = some (pile.reverse.foldl merge bottom) := by
  induction pile with
  | nil => rfl
  | cons top rest ih =>
    rw [List.cons_append, laid, ih, List.reverse_cons, List.foldl_append]
    rfl

theorem laidMergeAll (layers : List Document) :
    laid (layers.reverse ++ [empty]) = some (mergeAll layers) := by
  rw [laidOnto, List.reverse_reverse, mergeAll]

end LeveledLogging.Document
