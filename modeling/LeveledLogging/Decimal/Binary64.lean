/-!
Floating point numbers of 64 bits, kept as their bits. `Binary64.magnitude` says what the bits stand
for, and `Binary64.ofDecimal` is the way back: the number nearest to a decimal, ties to the even one.
-/
namespace LeveledLogging

structure Binary64 where
  bits : UInt64
  deriving DecidableEq, Repr

namespace Binary64

inductive Magnitude where
  | nan
  | infinite
  -- The number `m * 2 ^ q`; `narrow` tells that the next number below is only half a step away.
  | finite (m : Nat) (q : Int) (narrow : Bool)
  deriving DecidableEq, Repr

def signBit : Nat := 0x8000000000000000

def leading : Nat := 0x10000000000000

def isNegative (x : Binary64) : Bool := signBit ≤ x.bits.toNat

def magnitude (x : Binary64) : Magnitude :=
  let exponent : Nat := x.bits.toNat / leading % 2048
  let fraction : Nat := x.bits.toNat % leading
  if exponent = 2047 then
    if fraction = 0 then .infinite else .nan
  else if exponent = 0 then
    .finite fraction (-1074) false
  else
    .finite (leading + fraction) ((exponent : Int) - 1075) (fraction = 0 && exponent ≠ 1)

def isFinite (x : Binary64) : Bool :=
  match x.magnitude with
  | .finite .. => true
  | _ => false

def nan : Binary64 := ⟨0x7FF8000000000000⟩

def canonical (x : Binary64) : Binary64 :=
  match x.magnitude with
  | .nan => nan
  | _ => x

def withSign (negative : Bool) (bits : Nat) : Binary64 :=
  ⟨UInt64.ofNat (if negative then signBit + bits else bits)⟩

def infinity (negative : Bool) : Binary64 := withSign negative (2047 * leading)

def roundHalfEven (num den : Nat) : Nat :=
  let q := num / den
  let r := num % den
  if 2 * r < den then q
  else if den < 2 * r then q + 1
  else q + q % 2

def ofRatio (negative : Bool) (num den : Nat) : Binary64 :=
  let scaled (q : Int) : Nat × Nat :=
    if 0 ≤ q then (num, den * Nat.pow 2 q.toNat) else (num * Nat.pow 2 (-q).toNat, den)
  let low : Int := max ((num.log2 : Int) - den.log2 - 53) (-1074)
  let (n, d) := scaled low
  let q := if 2 * leading ≤ n / d then low + 1 else low
  let (n, d) := scaled q
  let m := roundHalfEven n d
  let (m, q) := if m = 2 * leading then (leading, q + 1) else (m, q)
  if 971 < q then infinity negative
  else if m < leading then withSign negative m
  else withSign negative ((q + 1075).toNat * leading + (m - leading))

def ofDecimal (negative : Bool) (n : Nat) (e : Int) : Binary64 :=
  let size : Int := (Nat.toDigits 10 n).length + e
  if n = 0 || size < -400 then withSign negative 0
  else if 400 < size then infinity negative
  else if 0 ≤ e then ofRatio negative (n * Nat.pow 10 e.toNat) 1
  else ofRatio negative n (Nat.pow 10 (-e).toNat)

def ofInt (n : Int) : Binary64 := ofDecimal (n < 0) n.natAbs 0

end Binary64

end LeveledLogging
