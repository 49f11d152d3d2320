import LeveledLogging.Text.Integer
/-!
Moments in time with the distance of the local clock, and their two texts: the local one with
milliseconds that opens a line of a log, and the universal one with microseconds.
-/
namespace LeveledLogging

/- A moment as seconds since the start of 1970 in universal time. From a thousand million up, `nanos`
counts through a leap second that follows the second. -/
structure Moment where
  seconds : Int
  nanos : Nat
  -- Seconds by which the local clock is ahead of universal time.
  offset : Int
  deriving DecidableEq, Repr

structure CivilDate where
  year : Int
  month : Nat
  day : Nat
  deriving DecidableEq, Repr

namespace CivilDate

/- The date so many days after the first of January 1970, in the Gregorian calendar. Years are
counted from March, so that a leap day comes last; an era has four hundred of them. -/
def ofDays (days : Int) : CivilDate :=
  let shifted := days + 719468
  let era := Int.fdiv shifted 146097
  let dayOfEra := (Int.fmod shifted 146097).toNat
  let yearOfEra := (dayOfEra - dayOfEra / 1460 + dayOfEra / 36524 - dayOfEra / 146096) / 365
  let dayOfYear := dayOfEra - (365 * yearOfEra + yearOfEra / 4 - yearOfEra / 100)
  let march := (5 * dayOfYear + 2) / 153
  let day := dayOfYear - (153 * march + 2) / 5 + 1
  let month := if march < 10 then march + 3 else march - 9
  let year := yearOfEra + era * 400 + if month ≤ 2 then 1 else 0
  ⟨year, month, day⟩

end CivilDate

namespace Moment

def second : Nat := 1000000000

def padded (width n : Nat) : List Char :=
  let digits := Nat.toDigits 10 n
  List.replicate (width - digits.length) '0' ++ digits

def yearText (year : Int) : List Char :=
  if 0 ≤ year ∧ year ≤ 9999 then padded 4 year.toNat
  else (if year < 0 then '-' else '+') :: padded 4 year.natAbs

def dateText (separator : Char) (date : CivilDate) : List Char :=
  yearText date.year ++ separator :: padded 2 date.month ++ separator :: padded 2 date.day

def clockText (secondOfDay leap : Nat) : List Char :=
  padded 2 (secondOfDay / 3600) ++ ':' :: padded 2 (secondOfDay / 60 % 60) ++
    ':' :: padded 2 (secondOfDay % 60 + leap)

def localText (t : Moment) : String :=
  let time := t.seconds + t.offset
  String.ofList (dateText '/' (CivilDate.ofDays (Int.fdiv time 86400)) ++ ' ' ::
    clockText (Int.fmod time 86400).toNat (t.nanos / second) ++
    '.' :: padded 3 (t.nanos % second / 1000000))

def universalText (t : Moment) : String :=
  String.ofList (dateText '-' (CivilDate.ofDays (Int.fdiv t.seconds 86400)) ++ 'T' ::
    clockText (Int.fmod t.seconds 86400).toNat (t.nanos / second) ++
    '.' :: padded 6 (t.nanos % second / 1000) ++ ['Z'])

end Moment

end LeveledLogging
