import LeveledLogging.Decimal.Binary64
import LeveledLogging.Text.Integer
/-!
The decimal with the fewest digits that lies closer to a given floating point number than to any
other, and the ways to lay its digits out. `Decimal.shortest` tries the powers of ten from the
largest down: the first whose grid has a point in the interval of reals that round to the number
decides how many digits there are, and of two such points the nearer one is taken.
-/
namespace LeveledLogging

structure Decimal where
  digits : Nat
  exponent : Int
  deriving DecidableEq, Repr

namespace Decimal

/- The better of the two neighbours of `m * 2 ^ q` on the grid of `10 ^ e`, if it rounds to it. -/
def onGrid (m : Nat) (q : Int) (narrow : Bool) (e : Int) : Option Nat :=
  let quarter := Nat.pow 2 q.toNat * Nat.pow 10 (-e).toNat
  let step := 4 * Nat.pow 2 (-q).toNat * Nat.pow 10 e.toNat
  let value := 4 * m * quarter
  let low := (4 * m - if narrow then 1 else 2) * quarter
  let high := (4 * m + 2) * quarter
  let inside (c : Nat) : Bool :=
    if m % 2 = 0 then low ≤ c * step && c * step ≤ high else low < c * step && c * step < high
  let below := value / step
  let lower := 0 < below && inside below
  let upper := inside (below + 1)
  if upper && (!lower || step ≤ 2 * (value % step)) then some (below + 1)
  else if lower then some below
  else none

def search (m : Nat) (q : Int) (narrow : Bool) : Nat → Int → Decimal
  | 0, e => ⟨0, e⟩
  | fuel + 1, e =>
    match onGrid m q narrow e with
    | some c => ⟨c, e⟩
    | none => search m q narrow fuel (e - 1)

/- The decimal of fewest digits that rounds to `m * 2 ^ q`, with `0 < m`. -/
def shortest (m : Nat) (q : Int) (narrow : Bool) : Decimal :=
  search m q narrow 24 (((m.log2 : Int) + q + 1) * 30103 / 100000 + 1)

structure Layout where
  -- A number has an exponent if its decimal point stands at this position or before it.
  least : Option Int
  -- A number has an exponent if its decimal point stands after this position.
  most : Option Int
  keepsPoint : Bool
  nan : String
  infinity : String

def Layout.plain : Layout := ⟨none, none, false, "NaN", "inf"⟩

def Layout.pointed : Layout := ⟨none, none, true, "NaN", "inf"⟩

def Layout.structural : Layout := ⟨some (-4), some 16, true, "NaN", "inf"⟩

def zeros (n : Nat) : List Char := List.replicate n '0'

def positional (keepsPoint : Bool) (digits : List Char) (point : Int) : List Char :=
  if point ≤ 0 then
    '0' :: '.' :: zeros (-point).toNat ++ digits
  else if digits.length ≤ point.toNat then
    digits ++ zeros (point.toNat - digits.length) ++ if keepsPoint then ['.', '0'] else []
  else
    digits.take point.toNat ++ '.' :: digits.drop point.toNat

def scientific (digits : List Char) (point : Int) : List Char :=
  let mantissa := match digits with
    | d :: r :: rs => d :: '.' :: r :: rs
    | ds => ds
  mantissa ++ 'e' :: (Text.integer (point - 1)).toList

def layOut (layout : Layout) (d : Decimal) : List Char :=
  let digits := Nat.toDigits 10 d.digits
  let point := digits.length + d.exponent
  if layout.least.all (· < point) && layout.most.all (point ≤ ·) then
    positional layout.keepsPoint digits point
  else
    scientific digits point

end Decimal

def Binary64.text (layout : Decimal.Layout) (x : Binary64) : String :=
  let sign := if x.isNegative then "-" else ""
  match x.magnitude with
  | .nan => layout.nan
  | .infinite => sign ++ layout.infinity
  | .finite 0 _ _ => sign ++ if layout.keepsPoint then "0.0" else "0"
  | .finite m q narrow => sign ++ String.ofList ((Decimal.shortest m q narrow).layOut layout)

end LeveledLogging
