import LeveledLogging.Moment
import Mathlib.Data.Prod.Lex
import Mathlib.Tactic.IntervalCases
import Mathlib.Tactic.SplitIfs
/-! The Gregorian calendar. The date of a day is computed by divisions; here it is compared with the
calendar as one counts it, by the lengths of months and years. A day has the date next to that of the
day before (`ofDaysNext`), each date is one of the calendar (`ofDaysReal`), and so later days have later
dates (`ofDaysAscending`). -/
namespace LeveledLogging

namespace CivilDate

def IsLeap (year : Int) : Prop := year % 4 = 0 ∧ (year % 100 ≠ 0 ∨ year % 400 = 0)

instance (year : Int) : Decidable (IsLeap year) := inferInstanceAs (Decidable (_ ∧ _))

def monthLength (year : Int) (month : Nat) : Nat :=
  if month = 2 then if IsLeap year then 29 else 28
  else if month = 4 ∨ month = 6 ∨ month = 9 ∨ month = 11 then 30
  else 31

structure IsReal (date : CivilDate) : Prop where
  month : 1 ≤ date.month ∧ date.month ≤ 12
  day : 1 ≤ date.day ∧ date.day ≤ monthLength date.year date.month

theorem IsReal.small {date : CivilDate} (real : date.IsReal) :
    date.month < 100 ∧ date.day < 100 := by
  obtain ⟨month, day⟩ := real
  have short : monthLength date.year date.month ≤ 31 := by
    unfold monthLength
    split_ifs <;> decide
  omega

def next (date : CivilDate) : CivilDate :=
  if date.day < monthLength date.year date.month then { date with day := date.day + 1 }
  else if date.month < 12 then ⟨date.year, date.month + 1, 1⟩
  else ⟨date.year + 1, 1, 1⟩

def fields (date : CivilDate) : Int ×ₗ Nat ×ₗ Nat :=
  toLex (date.year, toLex (date.month, date.day))

instance : LT CivilDate := ⟨fun a b => fields a < fields b⟩

theorem lessIff {a b : CivilDate} :
    a < b ↔ a.year < b.year ∨
      a.year = b.year ∧ (a.month < b.month ∨ a.month = b.month ∧ a.day < b.day) := by
  change fields a < fields b ↔ _
  simp [fields, Prod.Lex.toLex_lt_toLex]

theorem lessTrans {a b c : CivilDate} (first : a < b) (second : b < c) : a < c := by
  rw [lessIff] at *
  omega

theorem lessNext (date : CivilDate) : date < date.next := by
  rw [lessIff, next]
  split
  · exact .inr ⟨rfl, .inr ⟨rfl, Nat.lt_succ_self _⟩⟩
  · split
    · exact .inr ⟨rfl, .inl (Nat.lt_succ_self _)⟩
    · exact .inl (Int.lt_succ _)

def marchStart (year : Int) : Int := 365 * year + year / 4 - year / 100 + year / 400

def marchLength (year : Int) : Nat := if IsLeap (year + 1) then 366 else 365

theorem marchStartNext (year : Int) :
    marchStart (year + 1) = marchStart year + marchLength year := by
  unfold marchStart marchLength
  by_cases leap : IsLeap (year + 1)
  · rw [if_pos leap]
    unfold IsLeap at leap
    omega
  · rw [if_neg leap]
    unfold IsLeap at leap
    omega

theorem marchStartLess {a b : Int} : marchStart a < marchStart b ↔ a < b := by
  unfold marchStart
  omega

theorem marchStartEra (year era : Int) :
    marchStart (year + era * 400) = marchStart year + era * 146097 := by
  unfold marchStart
  omega

/- The days of an era up to one of them, without the leap days: every year then has 365. -/
def commonDays (dayOfEra : Nat) : Nat :=
  dayOfEra - dayOfEra / 1460 + dayOfEra / 36524 - dayOfEra / 146096

theorem commonDaysAscending {a b : Nat} (order : a ≤ b) (within : b < 146097) :
    commonDays a ≤ commonDays b := by
  induction b, order using Nat.le_induction with
  | base => exact Nat.le_refl _
  | succ b _ ih =>
    have step : commonDays b ≤ commonDays (b + 1) := by
      unfold commonDays
      omega
    exact Nat.le_trans (ih (by omega)) step

theorem commonDaysOfYear : ∀ year : Nat, year < 400 →
    365 * year ≤ commonDays (marchStart year).toNat ∧
      commonDays ((marchStart (year + 1)).toNat - 1) < 365 * (year + 1) := by
  decide +kernel

theorem yearExists (day : Nat) :
    ∃ year : Nat, marchStart year ≤ day ∧ (day : Int) < marchStart (year + 1) := by
  induction day with
  | zero => exact ⟨0, by decide⟩
  | succ day ih =>
    obtain ⟨year, first, last⟩ := ih
    by_cases within : (day : Int) + 1 < marchStart (year + 1)
    · exact ⟨year, by omega, within⟩
    · have more : marchStart (year + 1) < marchStart (year + 1 + 1) :=
        marchStartLess.mpr (Int.lt_succ _)
      refine ⟨year + 1, ?_, ?_⟩
      · push_cast
        omega
      · push_cast
        omega

theorem yearOfEra (dayOfEra : Nat) (within : dayOfEra < 146097) :
    ∃ year : Nat, commonDays dayOfEra / 365 = year ∧ year < 400 ∧
      marchStart year ≤ dayOfEra ∧ (dayOfEra : Int) < marchStart (year + 1) := by
  obtain ⟨year, first, last⟩ := yearExists dayOfEra
  have whole : marchStart 400 = 146097 := rfl
  have inEra : (year : Int) < 400 := marchStartLess.mp (by omega)
  have notAfter : marchStart (year + 1) ≤ 146097 := by
    unfold marchStart
    omega
  obtain ⟨atFirst, atLast⟩ := commonDaysOfYear year (by omega)
  have low : commonDays (marchStart year).toNat ≤ commonDays dayOfEra :=
    commonDaysAscending (by omega) within
  have high : commonDays dayOfEra ≤ commonDays ((marchStart (year + 1)).toNat - 1) :=
    commonDaysAscending (by omega) (by omega)
  exact ⟨year, by omega, by omega, first, last⟩

def monthStart (month : Nat) : Nat := (153 * month + 2) / 5

def monthEnd (year : Int) (month : Nat) : Nat :=
  if month < 11 then monthStart (month + 1) else marchLength year

theorem monthStartIff {month day : Nat} :
    monthStart month ≤ day ∧ day < monthStart (month + 1) ↔ (5 * day + 2) / 153 = month := by
  unfold monthStart
  omega

theorem monthEndWithin (year : Int) (month : Nat) (known : month < 12) :
    monthStart month < monthEnd year month ∧ monthEnd year month ≤ monthStart (month + 1) ∧
      monthEnd year month ≤ marchLength year := by
  unfold monthEnd marchLength monthStart
  split_ifs <;> omega

theorem monthOfDay (year : Int) (day : Nat) (inYear : day < marchLength year) :
    (5 * day + 2) / 153 < 12 ∧ monthStart ((5 * day + 2) / 153) ≤ day ∧
      day < monthEnd year ((5 * day + 2) / 153) := by
  obtain ⟨first, last⟩ := monthStartIff.mpr (Eq.refl ((5 * day + 2) / 153))
  have short : marchLength year ≤ 366 := by
    unfold marchLength
    split <;> decide
  refine ⟨by omega, first, ?_⟩
  unfold monthEnd
  split
  · exact last
  · exact inYear

def ofMarch (year : Int) (month day : Nat) : CivilDate :=
  let shown := if month < 10 then month + 3 else month - 9
  ⟨year + if shown ≤ 2 then 1 else 0, shown, day⟩

theorem ofMarchLength (year : Int) {month : Nat} (known : month < 12) (day : Nat) :
    monthStart month + monthLength (ofMarch year month day).year (ofMarch year month day).month =
      monthEnd year month := by
  unfold monthEnd marchLength
  interval_cases month
  case «11» => by_cases leap : IsLeap (year + 1) <;> simp [ofMarch, monthLength, monthStart, leap]
  all_goals simp [ofMarch, monthLength, monthStart]

theorem ofMarchNext (year : Int) {month : Nat} (known : month < 12) (day : Nat) :
    (ofMarch year month day).next =
      if monthStart month + day < monthEnd year month then ofMarch year month (day + 1)
      else if month < 11 then ofMarch year (month + 1) 1
      else ofMarch (year + 1) 0 1 := by
  have inMonth : (ofMarch year month day).day <
      monthLength (ofMarch year month day).year (ofMarch year month day).month ↔
        monthStart month + day < monthEnd year month := by
    rw [← ofMarchLength year known day, Nat.add_lt_add_iff_left]
    rfl
  rw [next]
  simp only [inMonth]
  split
  · rfl
  · interval_cases month <;> simp [ofMarch]

/- The date of a day by counting the days of the years and the months before it. -/
inductive FallsOn (days : Int) : CivilDate → Prop where
  | march (year : Int) (month day : Nat) (monthKnown : month < 12)
      (dayKnown : 1 ≤ day ∧ monthStart month + day ≤ monthEnd year month)
      (count : marchStart year + monthStart month + day = days + 719469) :
      FallsOn days (ofMarch year month day)

theorem FallsOn.real {days : Int} {date : CivilDate} (falls : FallsOn days date) : date.IsReal := by
  cases falls with
  | march year month day monthKnown dayKnown _ =>
    have length := ofMarchLength year monthKnown day
    refine ⟨?_, dayKnown.1, ?_⟩
    · unfold ofMarch
      dsimp only
      split <;> omega
    · change day ≤ _
      omega

theorem FallsOn.next {days : Int} {date : CivilDate} (falls : FallsOn days date) :
    FallsOn (days + 1) date.next := by
  cases falls with
  | march year month day monthKnown dayKnown count =>
    rw [ofMarchNext year monthKnown]
    split
    · exact .march _ _ _ monthKnown (by omega) (by omega)
    · rename_i lastDay
      split
      · rename_i inYear
        have ended : monthEnd year month = monthStart (month + 1) := if_pos inYear
        have nextMonth := monthEndWithin year (month + 1) (by omega)
        exact .march _ _ _ (by omega) (by omega) (by omega)
      · rename_i lastMonth
        have ended : monthEnd year month = marchLength year := if_neg lastMonth
        have nextYear := marchStartNext year
        have first : monthStart 0 = 0 := rfl
        have march := monthEndWithin (year + 1) 0 (by omega)
        exact .march _ _ _ (by omega) (by omega) (by omega)

theorem FallsOn.unique {days : Int} {date other : CivilDate} (one : FallsOn days date)
    (two : FallsOn days other) : date = other := by
  cases one with
  | march year month day monthKnown dayKnown count =>
    cases two with
    | march otherYear otherMonth otherDay otherMonthKnown otherDayKnown otherCount =>
      have inMonth := monthEndWithin year month monthKnown
      have inOther := monthEndWithin otherYear otherMonth otherMonthKnown
      obtain rfl : year = otherYear := by
        have ended := marchStartNext year
        have otherEnded := marchStartNext otherYear
        have notAfter : year < otherYear + 1 := marchStartLess.mp (by omega)
        have notBefore : otherYear < year + 1 := marchStartLess.mp (by omega)
        omega
      obtain rfl : month = otherMonth := by
        have here : (5 * (monthStart month + day - 1) + 2) / 153 = month :=
          monthStartIff.mp (by omega)
        have there : (5 * (monthStart month + day - 1) + 2) / 153 = otherMonth :=
          monthStartIff.mp (by omega)
        exact here.symm.trans there
      obtain rfl : day = otherDay := by omega
      rfl

theorem fallsOnOfDays (days : Int) : FallsOn days (ofDays days) := by
  have parts := Int.mul_fdiv_add_fmod (days + 719468) 146097
  have low : 0 ≤ (days + 719468).fmod 146097 := Int.fmod_nonneg_of_pos _ (by decide)
  have high : (days + 719468).fmod 146097 < 146097 := Int.fmod_lt_of_pos _ (by decide)
  unfold ofDays
  dsimp only
  generalize (days + 719468).fdiv 146097 = era at parts ⊢
  generalize (days + 719468).fmod 146097 = rest at parts low high ⊢
  obtain ⟨year, found, inEra, first, last⟩ := yearOfEra rest.toNat (by omega)
  unfold commonDays at found
  rw [found]
  have start : marchStart year = (365 * year + year / 4 - year / 100 : Nat) := by
    unfold marchStart
    omega
  generalize 365 * year + year / 4 - year / 100 = before at start ⊢
  -- every era starts its years on the same days, so that the day is one of this year in its own era
  have here := marchStartEra year era
  have there := marchStartEra (year + 1) era
  rw [Int.add_right_comm] at there
  have length := marchStartNext (year + era * 400)
  obtain ⟨monthKnown, monthFirst, monthLast⟩ :=
    monthOfDay (year + era * 400) (rest.toNat - before) (by omega)
  generalize (5 * (rest.toNat - before) + 2) / 153 = month at monthKnown monthFirst monthLast ⊢
  exact .march (year + era * 400) month (rest.toNat - before - monthStart month + 1) monthKnown
    (by omega) (by omega)

theorem ofDaysReal (days : Int) : (ofDays days).IsReal := (fallsOnOfDays days).real

theorem ofDaysNext (days : Int) : ofDays (days + 1) = (ofDays days).next :=
  (fallsOnOfDays (days + 1)).unique (fallsOnOfDays days).next

example : ofDays 0 = ⟨1970, 1, 1⟩ := by decide

theorem ofDaysAscending {a b : Int} (less : a < b) : ofDays a < ofDays b := by
  obtain ⟨steps, rfl⟩ := Int.le.dest (Int.add_one_le_of_lt less)
  clear less
  induction steps with
  | zero =>
    rw [Int.natCast_zero, Int.add_zero, ofDaysNext]
    exact lessNext _
  | succ steps ih =>
    rw [Int.natCast_succ, ← Int.add_assoc, ofDaysNext (a + 1 + steps)]
    exact lessTrans ih (lessNext _)

end CivilDate

end LeveledLogging
