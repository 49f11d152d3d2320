import LeveledLogging.Proofs.Calendar
import LeveledLogging.Proofs.Octets
import Mathlib.Data.Set.Operations
/-! Timestamps in columns. A number with zeros in front sorts like the number, and texts of fixed width
side by side sort by what the first ones stand for, then by what the next ones do. The local text of a
moment is made of such columns, from the year down to the millisecond, so that the texts of moments
with one offset sort like the moments (`timestampsSorted`). -/
namespace LeveledLogging

theorem Text.appendLess {a b : List Char} (sameWidth : a.length = b.length) (less : a < b)
    (x y : List Char) : a ++ x < b ++ y := by
  induction a generalizing b with
  | nil =>
    rw [List.eq_nil_of_length_eq_zero sameWidth.symm] at less
    exact absurd less (List.lt_irrefl _)
  | cons c tail ih =>
    cases b with
    | nil => contradiction
    | cons d rest =>
      rcases List.cons_lt_cons_iff.mp less with before | ⟨rfl, after⟩
      · exact List.cons_lt_cons_iff.mpr (.inl before)
      · exact List.cons_lt_cons_iff.mpr (.inr ⟨rfl, ih (Nat.succ.inj sameWidth) after⟩)

structure Column {α : Type} [LT α] (width : Nat) (keys : Set α) (text : α → List Char) :
    Prop where
  width : ∀ {key}, key ∈ keys → (text key).length = width
  ascending : ∀ {a b}, a ∈ keys → b ∈ keys → a < b → text a < text b

namespace Column

variable {α β : Type} [LT α] [LT β] {width wide : Nat} {keys : Set α} {others : Set β}
  {text : α → List Char} {otherText : β → List Char}

theorem congr (column : Column width keys text) {same : α → List Char}
    (agree : keys.EqOn text same) : Column width keys same := by
  refine ⟨fun isKey => ?_, fun isKey isKeyToo less => ?_⟩
  · rw [← agree isKey]
    exact column.width isKey
  · rw [← agree isKey, ← agree isKeyToo]
    exact column.ascending isKey isKeyToo less

theorem fewer (column : Column width keys text) {part : Set α} (within : part ⊆ keys) :
    Column width part text := by
  refine ⟨fun isKey => column.width (within isKey), fun isKey isKeyToo less => ?_⟩
  exact column.ascending (within isKey) (within isKeyToo) less

theorem along (column : Column width keys text) (key : β → α) (within : others.MapsTo key keys)
    (ascending : ∀ {a b}, a ∈ others → b ∈ others → a < b → key a < key b) :
    Column width others fun other => text (key other) := by
  refine ⟨fun isKey => column.width (within isKey), fun isKey isKeyToo less => ?_⟩
  exact column.ascending (within isKey) (within isKeyToo) (ascending isKey isKeyToo less)

theorem behind (column : Column width keys text) (mark : Char) :
    Column (width + 1) keys fun key => mark :: text key := by
  refine ⟨fun isKey => ?_, fun isKey isKeyToo less => ?_⟩
  · rw [List.length_cons, column.width isKey]
  · exact List.cons_lt_cons_iff.mpr (.inr ⟨rfl, column.ascending isKey isKeyToo less⟩)

theorem beside (column : Column width keys text) (other : Column wide others otherText) :
    Column (width + wide) {pair : α ×ₗ β | (ofLex pair).1 ∈ keys ∧ (ofLex pair).2 ∈ others}
      fun pair => text (ofLex pair).1 ++ otherText (ofLex pair).2 := by
  refine ⟨fun isKey => ?_, fun isKey isKeyToo less => ?_⟩
  · rw [List.length_append, column.width isKey.1, other.width isKey.2]
  -- of one width, the first texts end at the same place, so that the second ones meet each other
  · rcases Prod.Lex.lt_iff.mp less with before | ⟨same, after⟩
    · refine Text.appendLess ?_ (column.ascending isKey.1 isKeyToo.1 before) _ _
      rw [column.width isKey.1, column.width isKeyToo.1]
    · rw [same]
      exact List.append_left_lt (other.ascending isKey.2 isKeyToo.2 after)

theorem floorLess {base : Nat} (positive : 0 < base) {a b : Int} (less : a < b) :
    (toLex (a / base, (a % base).toNat) : Int ×ₗ Nat) < toLex (b / base, (b % base).toNat) := by
  have whole : (0 : Int) < base := Int.natCast_pos.mpr positive
  rw [Prod.Lex.toLex_lt_toLex]
  rcases Int.lt_or_eq_of_le (Int.ediv_le_ediv whole (Int.le_of_lt less)) with before | same
  · exact .inl before
  · have first := Int.mul_ediv_add_emod a base
    have second := Int.mul_ediv_add_emod b base
    have notNegative := Int.emod_nonneg a (Int.ne_of_gt whole)
    rw [same] at first
    exact .inr ⟨same, by dsimp only; omega⟩

theorem quotientLess {base : Nat} (positive : 0 < base) {a b : Nat} (less : a < b) :
    (toLex (a / base, a % base) : Nat ×ₗ Nat) < toLex (b / base, b % base) := by
  have floor := floorLess positive (Int.ofNat_lt.mpr less)
  rw [Prod.Lex.toLex_lt_toLex] at floor ⊢
  simp only [← Int.natCast_ediv, ← Int.natCast_emod, Int.toNat_natCast, Int.ofNat_lt,
    Int.natCast_inj] at floor
  exact floor

theorem floorPlaces {base : Nat} (positive : 0 < base) {keys : Set Int} {text : Int → List Char}
    {otherText : Nat → List Char} (column : Column width keys text)
    (other : Column wide {n | n < base} otherText) :
    Column (width + wide) {n : Int | n / base ∈ keys}
      fun n => text (n / base) ++ otherText (n % base).toNat := by
  refine (column.beside other).along _ (fun n isKey => ?_) fun _ _ => floorLess positive
  have below := Int.emod_lt_of_pos n (Int.natCast_pos.mpr positive)
  exact ⟨isKey, show (n % base).toNat < base by omega⟩

theorem places {bound base : Nat} (positive : 0 < base) {text otherText : Nat → List Char}
    (column : Column width {n | n < bound} text) (other : Column wide {n | n < base} otherText) :
    Column (width + wide) {n | n < bound * base}
      fun n => text (n / base) ++ otherText (n % base) := by
  refine (column.beside other).along _ (fun n small => ?_) fun _ _ => quotientLess positive
  exact ⟨(Nat.div_lt_iff_lt_mul positive).mpr small, Nat.mod_lt n positive⟩

section

variable {numbers : Set Int} {numeral : Int → List Char} {a b : Int}

theorem lessIff (column : Column width numbers numeral) (isKey : a ∈ numbers)
    (isKeyToo : b ∈ numbers) : numeral a < numeral b ↔ a < b := by
  constructor
  · intro less
    rcases Int.lt_trichotomy a b with before | rfl | after
    · exact before
    · exact absurd less (List.lt_irrefl _)
    · exact absurd less (List.lt_asymm (column.ascending isKeyToo isKey after))
  · exact column.ascending isKey isKeyToo

theorem sameIff (column : Column width numbers numeral) (isKey : a ∈ numbers)
    (isKeyToo : b ∈ numbers) : numeral a = numeral b ↔ a = b := by
  constructor
  · intro same
    have notBefore : ¬ a < b := by
      rw [← column.lessIff isKey isKeyToo, same]
      exact List.lt_irrefl _
    have notAfter : ¬ b < a := by
      rw [← column.lessIff isKeyToo isKey, same]
      exact List.lt_irrefl _
    exact Int.le_antisymm (Int.not_lt.mp notAfter) (Int.not_lt.mp notBefore)
  · rintro rfl
    rfl

end

end Column

def CivilDate.HasFourDigits (date : CivilDate) : Prop := 0 ≤ date.year ∧ date.year ≤ 9999

instance (date : CivilDate) : Decidable date.HasFourDigits := inferInstanceAs (Decidable (_ ∧ _))

namespace Moment

theorem digitColumn : Column 1 {d | d < 10} fun d => [Nat.digitChar d] := by
  refine ⟨fun _ => rfl, fun {a b} isDigit isDigitToo less => ?_⟩
  refine List.cons_lt_cons_iff.mpr (.inl ?_)
  change (Nat.digitChar a).toNat < (Nat.digitChar b).toNat
  rw [Nat.toNat_digitChar_of_lt_ten isDigit, Nat.toNat_digitChar_of_lt_ten isDigitToo]
  omega

theorem paddedSplit (width n : Nat) :
    padded (width + 2) n = padded (width + 1) (n / 10) ++ [Nat.digitChar (n % 10)] := by
  unfold padded
  rw [Nat.toDigits_eq_if (by decide) (n := n)]
  split
  · rename_i small
    rw [Nat.div_eq_of_lt small, Nat.mod_eq_of_lt small]
    simp [List.replicate_succ']
  · simp

theorem paddedColumn (width : Nat) :
    Column (width + 1) {n | n < 10 ^ (width + 1)} (padded (width + 1)) := by
  induction width with
  | zero =>
    refine digitColumn.congr fun d small => ?_
    unfold padded
    rw [Nat.toDigits_of_lt_base small]
    rfl
  | succ width ih =>
    exact (ih.places (by decide) digitColumn).congr fun n _ => (paddedSplit width n).symm

theorem twoDigits {bound : Nat} (small : bound ≤ 100) : Column 2 {n | n < bound} (padded 2) :=
  (paddedColumn 1).fewer fun _ below => Nat.lt_of_lt_of_le below small

theorem clockColumn : Column 8 {n | n < 24 * 60 * 60} fun n => clockText n 0 := by
  have hours : Column 2 {n | n < 24} (padded 2) := twoDigits (by decide)
  have sixty : Column 3 {n | n < 60} fun n => ':' :: padded 2 n :=
    (twoDigits (by decide)).behind ':'
  refine ((hours.places (by decide) sixty).places (by decide) sixty).congr fun n _ => ?_
  simp only [clockText, Nat.div_div_eq_div_mul, Nat.add_zero]

theorem yearColumn : Column 4 {year : Int | 0 ≤ year ∧ year ≤ 9999} yearText := by
  refine ((paddedColumn 3).along Int.toNat (fun year shown => ?_) fun shown _ less => ?_).congr
    fun year shown => (if_pos shown).symm
  · have upTo := shown.2
    exact show year.toNat < 10000 by omega
  · exact (Int.toNat_lt_toNat (Int.lt_of_le_of_lt shown.1 less)).mpr less

theorem dateColumn (separator : Char) :
    Column 10 {date : CivilDate | date.IsReal ∧ date.HasFourDigits} (dateText separator) := by
  have two : Column 3 {n | n < 100} fun n => separator :: padded 2 n :=
    (twoDigits (Nat.le_refl 100)).behind separator
  refine ((yearColumn.beside (two.beside two)).along CivilDate.fields (fun date shown => ?_)
    fun _ _ less => less).congr fun date _ => ?_
  · exact ⟨shown.2, shown.1.small⟩
  · simp [dateText, CivilDate.fields]

def stamp (time : Int) : List Char :=
  dateText '/' (CivilDate.ofDays (time / 1000 / 86400)) ++
    ' ' :: clockText (time / 1000 % 86400).toNat 0 ++ '.' :: padded 3 (time % 1000).toNat

theorem stampColumn :
    Column 23 {time : Int | (CivilDate.ofDays (time / 1000 / 86400)).HasFourDigits} stamp := by
  have dates : Column 10 {days : Int | (CivilDate.ofDays days).HasFourDigits}
      fun days => dateText '/' (CivilDate.ofDays days) :=
    (dateColumn '/').along CivilDate.ofDays
      (fun days shown => ⟨CivilDate.ofDaysReal days, shown⟩) fun _ _ => CivilDate.ofDaysAscending
  have seconds := dates.floorPlaces (by decide) (clockColumn.behind ' ')
  exact seconds.floorPlaces (by decide) ((paddedColumn 2).behind '.')

def localDate (t : Moment) : CivilDate := CivilDate.ofDays (Int.fdiv (t.seconds + t.offset) 86400)

/- A moment outside of leap seconds with a local year of four digits. -/
structure Ordinary (t : Moment) : Prop where
  noLeapSecond : t.nanos < second
  year : t.localDate.HasFourDigits

def nanoseconds (t : Moment) : Int := t.seconds * second + t.nanos

def milliseconds (t : Moment) : Int := t.nanoseconds / 1000000

def localMilliseconds (t : Moment) : Int := t.milliseconds + t.offset * 1000

theorem Ordinary.localParts {t : Moment} (ordinary : t.Ordinary) :
    t.localMilliseconds / 1000 = t.seconds + t.offset ∧
      (t.localMilliseconds % 1000).toNat = t.nanos % second / 1000000 := by
  have within := ordinary.noLeapSecond
  unfold localMilliseconds milliseconds nanoseconds
  unfold second at within ⊢
  omega

theorem Ordinary.localStamp {t : Moment} (ordinary : t.Ordinary) :
    t.localText = String.ofList (stamp t.localMilliseconds) := by
  have noLeap : t.nanos / second = 0 := Nat.div_eq_of_lt ordinary.noLeapSecond
  have day : (0 : Int) ≤ 86400 := by decide
  obtain ⟨whole, rest⟩ := ordinary.localParts
  simp only [localText, stamp, whole, rest, noLeap, Int.fdiv_eq_ediv_of_nonneg _ day,
    Int.fmod_eq_emod_of_nonneg _ day]

theorem Ordinary.inColumn {t : Moment} (ordinary : t.Ordinary) :
    (CivilDate.ofDays (t.localMilliseconds / 1000 / 86400)).HasFourDigits := by
  have year := ordinary.year
  rwa [localDate, Int.fdiv_eq_ediv_of_nonneg _ (by decide), ← ordinary.localParts.1] at year

theorem timestampsSorted {a b : Moment} (sameOffset : a.offset = b.offset) (ordinary : a.Ordinary)
    (ordinaryToo : b.Ordinary) :
    a.localText.length = 23 ∧ b.localText.length = 23 ∧
      (Text.octets a.localText < Text.octets b.localText ↔ a.milliseconds < b.milliseconds) ∧
      (a.localText = b.localText ↔ a.milliseconds = b.milliseconds) := by
  have order := stampColumn.lessIff ordinary.inColumn ordinaryToo.inColumn
  have equality := stampColumn.sameIff ordinary.inColumn ordinaryToo.inColumn
  rw [ordinary.localStamp, ordinaryToo.localStamp]
  refine ⟨?_, ?_, ?_, ?_⟩
  · rw [String.length_ofList, stampColumn.width ordinary.inColumn]
  · rw [String.length_ofList, stampColumn.width ordinaryToo.inColumn]
  · rw [Text.octetsLess, String.lt_iff, String.toList_ofList, String.toList_ofList, order]
    unfold localMilliseconds
    omega
  · rw [String.ofList_inj, equality]
    unfold localMilliseconds
    omega

theorem leapDayBeforeMarch :
    let a : Moment := ⟨-57961801, 999999999, -12600⟩
    let b : Moment := ⟨-57961800, 0, -12600⟩
    a.Ordinary ∧ b.Ordinary ∧ a.milliseconds < b.milliseconds ∧
      a.localText = "1968/02/29 23:59:59.999" ∧ b.localText = "1968/03/01 00:00:00.000" ∧
      a.localText.length = 23 ∧ b.localText.length = 23 ∧
      Text.octets a.localText < Text.octets b.localText ∧ a.localText ≠ b.localText := by
  intro a b
  have ordinary : a.Ordinary := ⟨by decide, by decide⟩
  have ordinaryToo : b.Ordinary := ⟨by decide, by decide⟩
  have earlier : a.milliseconds < b.milliseconds := by decide
  obtain ⟨width, widthToo, order, equality⟩ := timestampsSorted (by rfl) ordinary ordinaryToo
  exact ⟨ordinary, ordinaryToo, earlier, by decide, by decide, width, widthToo, order.mpr earlier,
    fun same => Int.ne_of_lt earlier (equality.mp same)⟩

end Moment

end LeveledLogging
