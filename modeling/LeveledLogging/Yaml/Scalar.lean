import LeveledLogging.Decimal.Binary64
import LeveledLogging.Text.Integer
/-!
What plain scalars stand for: nothing, truth values, integers, numbers, or else text.
-/
namespace LeveledLogging.Yaml

inductive Scalar where
  | null
  | boolean (b : Bool)
  | integer (n : Int)
  | float (x : Binary64)
  | text (s : String)
  deriving DecidableEq, Repr

namespace Scalar

def isNull (s : String) : Bool := s = "null" || s = "Null" || s = "NULL" || s = "~"

def readBoolean (s : String) : Option Bool :=
  if s = "true" || s = "True" || s = "TRUE" then some true
  else if s = "false" || s = "False" || s = "FALSE" then some false
  else none

def hasLeadingZero (s : List Char) : Bool :=
  let digits := match s with
    | '-' :: rest => rest
    | '+' :: rest => rest
    | s => s
  match digits with
  | '0' :: c :: rest => (c :: rest).all Char.isDigit
  | _ => false

private def base (c : Char) : Option Nat :=
  if c = 'x' then some 16 else if c = 'o' then some 8 else if c = 'b' then some 2 else none

private def readBased : List Char → Option Nat
  | '0' :: c :: digits => do Text.readDigits (← base c) digits
  | _ => none

def readIntegerChars (s : List Char) : Option Int :=
  let magnitude (digits : List Char) : Option Nat :=
    (readBased digits).or (if hasLeadingZero s then none else Text.readDigits 10 digits)
  match s with
  | '-' :: digits => (magnitude digits).map fun n => -(n : Int)
  | '+' :: digits => (magnitude digits).map Int.ofNat
  | digits => (magnitude digits).map Int.ofNat

def readInteger (s : String) : Option Int :=
  (readIntegerChars s.toList).filter fun n => -(Nat.pow 2 127 : Int) ≤ n && n < Nat.pow 2 128

private def readExponent : List Char → Option Int
  | [] => some 0
  | c :: rest => if c = 'e' || c = 'E' then Text.readIntChars 10 rest else none

private def readDecimal (negative : Bool) (s : List Char) : Option Binary64 := do
  let whole := s.takeWhile Char.isDigit
  let (fraction, rest) := match s.dropWhile Char.isDigit with
    | '.' :: rest => (rest.takeWhile Char.isDigit, rest.dropWhile Char.isDigit)
    | rest => ([], rest)
  let n ← Text.readDigits 10 (whole ++ fraction)
  let x := Binary64.ofDecimal negative n ((← readExponent rest) - fraction.length)
  if x.isFinite then return x else failure

private def infinities : List (List Char) :=
  [['.', 'i', 'n', 'f'], ['.', 'I', 'n', 'f'], ['.', 'I', 'N', 'F']]

private def nans : List (List Char) :=
  [['.', 'n', 'a', 'n'], ['.', 'N', 'a', 'N'], ['.', 'N', 'A', 'N']]

def readFloat (s : String) : Option Binary64 :=
  match s.toList with
  | '-' :: rest =>
    if infinities.contains rest then some (Binary64.infinity true) else readDecimal true rest
  | '+' :: rest =>
    if infinities.contains rest then some (Binary64.infinity false) else readDecimal false rest
  | s =>
    if infinities.contains s then some (Binary64.infinity false)
    else if nans.contains s then some Binary64.nan
    else readDecimal false s

def resolve (s : String) : Scalar :=
  if s = "" || isNull s then null
  else match readBoolean s with
    | some b => boolean b
    | none => match readInteger s with
      | some n => integer n
      | none => match (if hasLeadingZero s.toList then none else readFloat s) with
        | some x => float x
        | none => text s

end Scalar

end LeveledLogging.Yaml
