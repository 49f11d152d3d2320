/-!
Whole numbers written in digits. A reader takes the entire text or refuses it: no blanks, no
separators, at least one digit. `readInt` allows one sign in front, `readNat` only a plus.
-/
namespace LeveledLogging.Text

def digitValue (c : Char) : Option Nat :=
  if '0' ≤ c ∧ c ≤ '9' then some (c.toNat - '0'.toNat)
  else if 'a' ≤ c ∧ c ≤ 'f' then some (c.toNat - 'a'.toNat + 10)
  else if 'A' ≤ c ∧ c ≤ 'F' then some (c.toNat - 'A'.toNat + 10)
  else none

def readDigitsFrom (base acc : Nat) : List Char → Option Nat
  | [] => some acc
  | c :: cs =>
    match digitValue c with
    | some d => if d < base then readDigitsFrom base (acc * base + d) cs else none
    | none => none

def readDigits (base : Nat) : List Char → Option Nat
  | [] => none
  | c :: cs => readDigitsFrom base 0 (c :: cs)

def readNatChars (base : Nat) : List Char → Option Nat
  | '+' :: cs => readDigits base cs
  | cs => readDigits base cs

def readIntChars (base : Nat) : List Char → Option Int
  | '-' :: cs => (readDigits base cs).map fun n => -(n : Int)
  | cs => (readNatChars base cs).map Int.ofNat

def readNat (bound : Nat) (s : String) : Option Nat :=
  (readNatChars 10 s.toList).filter (· < bound)

def readInt (lo hi : Int) (s : String) : Option Int :=
  (readIntChars 10 s.toList).filter fun n => lo ≤ n ∧ n ≤ hi

def readInt32 (s : String) : Option Int32 :=
  (readInt Int32.minValue.toInt Int32.maxValue.toInt s).map Int32.ofInt

def readInt64 (s : String) : Option Int64 :=
  (readInt Int64.minValue.toInt Int64.maxValue.toInt s).map Int64.ofInt

def integer (n : Int) : String :=
  if n < 0 then "-" ++ String.ofList (Nat.toDigits 10 n.natAbs)
  else String.ofList (Nat.toDigits 10 n.natAbs)

end LeveledLogging.Text
