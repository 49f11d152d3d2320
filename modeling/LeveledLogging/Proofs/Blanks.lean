import LeveledLogging.Text.Pieces
import Mathlib.Data.List.TakeWhile
/-! Texts with blanks around them. A text is what is left of it without the blanks at its ends, and the
blanks (`paddedTrim`); what is left neither begins nor ends with a blank (`bareTrim`), and a text of
that kind is what is left of it however it is padded (`trimPadded`). -/
namespace LeveledLogging.Text

def AllBlank (s : List Char) : Prop := ∀ c ∈ s, isBlank c = true

structure Bare (s : List Char) : Prop where
  first : ∀ c ∈ s.head?, isBlank c = false
  last : ∀ c ∈ s.getLast?, isBlank c = false

theorem allBlankNil : AllBlank [] := fun _ inside => nomatch inside

theorem AllBlank.append {s t : List Char} (blank : AllBlank s) (also : AllBlank t) :
    AllBlank (s ++ t) := by
  intro c inside
  rcases List.mem_append.mp inside with here | there
  · exact blank c here
  · exact also c there

theorem AllBlank.reverse {s : List Char} (blank : AllBlank s) : AllBlank s.reverse :=
  fun c inside => blank c (List.mem_reverse.mp inside)

theorem blankOrVisible (s : List Char) :
    AllBlank s ∨ ∃ before c after, AllBlank before ∧ isBlank c = false ∧ s = before ++ c :: after := by
  induction s with
  | nil => exact .inl allBlankNil
  | cons x rest ih =>
    cases kind : isBlank x with
    | false => exact .inr ⟨[], x, rest, allBlankNil, kind, rfl⟩
    | true =>
      have single : AllBlank [x] := fun c inside => List.mem_singleton.mp inside ▸ kind
      rcases ih with blank | ⟨before, c, after, blank, visible, rfl⟩
      · exact .inl (single.append blank)
      · exact .inr ⟨x :: before, c, after, single.append blank, visible, rfl⟩

theorem trimStartCharsBefore {before : List Char} (blank : AllBlank before) (s : List Char) :
    trimStartChars (before ++ s) = trimStartChars s :=
  List.dropWhile_append_of_pos blank

theorem trimEndCharsAfter {after : List Char} (blank : AllBlank after) (s : List Char) :
    trimEndChars (s ++ after) = trimEndChars s := by
  rw [trimEndChars, List.reverse_append]
  exact congrArg List.reverse (trimStartCharsBefore blank.reverse s.reverse)

theorem trimStartCharsApart {c : Char} (visible : isBlank c = false) (s t : List Char) :
    trimStartChars (s ++ c :: t) = trimStartChars s ++ c :: t := by
  induction s with
  | nil => exact trimStartCharsVisible visible
  | cons x rest ih =>
    cases kind : isBlank x with
    | false => rw [List.cons_append, trimStartCharsVisible kind, trimStartCharsVisible kind]; rfl
    | true => simpa [trimStartChars, kind] using ih

theorem trimEndCharsApart {c : Char} (visible : isBlank c = false) (s t : List Char) :
    trimEndChars (s ++ c :: t) = s ++ c :: trimEndChars t := by
  have turned : (s ++ c :: t).reverse = t.reverse ++ c :: s.reverse := by simp
  have started := trimStartCharsApart visible t.reverse s.reverse
  unfold trimStartChars at started
  rw [trimEndChars, turned, started]
  simp [trimEndChars]

theorem trimCharsApart {c : Char} (visible : isBlank c = false) (s t : List Char) :
    trimChars (s ++ c :: t) = trimStartChars s ++ c :: trimEndChars t := by
  rw [trimChars, trimStartCharsApart visible, trimEndCharsApart visible]

theorem trimStartCharsBlank {s : List Char} (blank : AllBlank s) : trimStartChars s = [] :=
  List.dropWhile_eq_nil_iff.mpr blank

theorem trimCharsBlank {s : List Char} (blank : AllBlank s) : trimChars s = [] := by
  rw [trimChars, trimStartCharsBlank blank]
  rfl

theorem trimCharsAround {before after : List Char} (blank : AllBlank before)
    (blankToo : AllBlank after) (s : List Char) : trimChars (before ++ s ++ after) = trimChars s := by
  rcases blankOrVisible s with all | ⟨start, c, rest, starting, visible, rfl⟩
  · rw [trimCharsBlank all, trimCharsBlank ((blank.append all).append blankToo)]
  · have parts : before ++ (start ++ c :: rest) ++ after = (before ++ start) ++ c :: (rest ++ after) := by
      simp
    rw [parts, trimCharsApart visible, trimCharsApart visible, trimEndCharsAfter blankToo,
      trimStartCharsBefore blank]

theorem trimStartCharsSplit (s : List Char) :
    ∃ before, AllBlank before ∧ s = before ++ trimStartChars s :=
  ⟨s.takeWhile isBlank, fun _ inside => List.mem_takeWhile_imp inside,
    List.takeWhile_append_dropWhile.symm⟩

theorem trimEndCharsSplit (s : List Char) :
    ∃ after, AllBlank after ∧ s = trimEndChars s ++ after := by
  obtain ⟨before, blank, same⟩ := trimStartCharsSplit s.reverse
  refine ⟨before.reverse, blank.reverse, ?_⟩
  have turned := congrArg List.reverse same
  rwa [List.reverse_reverse, List.reverse_append] at turned

theorem trimCharsSplit (s : List Char) :
    ∃ before after, AllBlank before ∧ AllBlank after ∧ s = before ++ trimChars s ++ after := by
  obtain ⟨before, blank, start⟩ := trimStartCharsSplit s
  obtain ⟨after, blankToo, rest⟩ := trimEndCharsSplit (trimStartChars s)
  refine ⟨before, after, blank, blankToo, ?_⟩
  rw [List.append_assoc, trimChars, ← rest]
  exact start

theorem trimCharsStart (s : List Char) : trimChars (trimStartChars s) = trimChars s := by
  obtain ⟨before, blank, same⟩ := trimStartCharsSplit s
  have around := trimCharsAround blank allBlankNil (trimStartChars s)
  rw [List.append_nil, ← same] at around
  exact around.symm

theorem trimCharsEnd (s : List Char) : trimChars (trimEndChars s) = trimChars s := by
  obtain ⟨after, blank, same⟩ := trimEndCharsSplit s
  have around := trimCharsAround allBlankNil blank (trimEndChars s)
  rw [List.nil_append, ← same] at around
  exact around.symm

theorem trimCharsBare {s : List Char} (bare : Bare s) : trimChars s = s := by
  have started : trimStartChars s = s := by
    cases s with
    | nil => rfl
    | cons c rest => exact trimStartCharsVisible (bare.first c rfl)
  have ended : trimEndChars s = s := by
    rcases List.eq_nil_or_concat s with rfl | ⟨rest, c, rfl⟩
    · rfl
    · rw [List.concat_eq_append] at bare ⊢
      exact trimEndCharsVisible (bare.last c List.getLast?_concat)
  rw [trimChars, started, ended]

theorem trimEndCharsLast (s : List Char) : ∀ c ∈ (trimEndChars s).getLast?, isBlank c = false := by
  intro c found
  rw [trimEndChars, List.getLast?_reverse] at found
  have kept := List.head?_dropWhile_not isBlank s.reverse
  rw [Option.mem_def.mp found] at kept
  exact kept

theorem bareTrimChars (s : List Char) : Bare (trimChars s) := by
  rcases blankOrVisible s with blank | ⟨before, c, after, blank, visible, rfl⟩
  · rw [trimCharsBlank blank]
    exact ⟨by simp, by simp⟩
  · have shape : trimChars (before ++ c :: after) = c :: trimEndChars after := by
      rw [trimCharsApart visible, trimStartCharsBlank blank, List.nil_append]
    refine ⟨?_, trimEndCharsLast _⟩
    intro d first
    rw [shape, List.head?_cons, Option.mem_some] at first
    exact first ▸ visible

def Padded (core text : String) : Prop :=
  ∃ before after, AllBlank before ∧ AllBlank after ∧ text.toList = before ++ core.toList ++ after

theorem Padded.refl (core : String) : Padded core core :=
  ⟨[], [], allBlankNil, allBlankNil, by simp⟩

theorem Padded.trans {core text whole : String} (padded : Padded core text)
    (around : Padded text whole) : Padded core whole := by
  obtain ⟨first, last, blankFirst, blankLast, inner⟩ := padded
  obtain ⟨before, after, blank, blankToo, outer⟩ := around
  refine ⟨before ++ first, last ++ after, blank.append blankFirst, blankLast.append blankToo, ?_⟩
  rw [outer, inner]
  simp

theorem Padded.subset {core text : String} (padded : Padded core text) :
    core.toList ⊆ text.toList := by
  obtain ⟨before, after, _, _, same⟩ := padded
  rw [same]
  intro c inside
  exact List.mem_append_left _ (List.mem_append_right _ inside)

theorem Padded.without {core text : String} (padded : Padded core text) {c : Char}
    (visible : isBlank c = false) (free : c ∉ core.toList) : c ∉ text.toList := by
  obtain ⟨before, after, blank, blankToo, same⟩ := padded
  have outside : ∀ {s : List Char}, AllBlank s → c ∉ s := by
    intro s all inside
    rw [all c inside] at visible
    contradiction
  simp [same, outside blank, outside blankToo, free]

theorem paddedTrim (text : String) : Padded (trim text) text := by
  obtain ⟨before, after, blank, blankToo, same⟩ := trimCharsSplit text.toList
  refine ⟨before, after, blank, blankToo, ?_⟩
  rw [trim, String.toList_ofList]
  exact same

theorem Padded.ofTrim {core text : String} (trimmed : trim text = core) : Padded core text :=
  trimmed ▸ paddedTrim text

theorem trimPadded {core text : String} (padded : Padded core text) : trim text = trim core := by
  obtain ⟨before, after, blank, blankToo, same⟩ := padded
  rw [trim, same, trimCharsAround blank blankToo, ← trim]

theorem trimBare {core : String} (bare : Bare core.toList) : trim core = core := by
  rw [trim, trimCharsBare bare, String.ofList_toList]

theorem trimBlank {text : String} : trim text = "" ↔ AllBlank text.toList := by
  constructor
  · intro empty
    obtain ⟨before, after, blank, blankToo, same⟩ := paddedTrim text
    rw [empty] at same
    rw [same]
    exact (blank.append allBlankNil).append blankToo
  · intro blank
    rw [trim, trimCharsBlank blank]

theorem bareTrim (text : String) : Bare (trim text).toList := by
  rw [trim, String.toList_ofList]
  exact bareTrimChars text.toList

end LeveledLogging.Text
