import LeveledLogging.Decimal.Shortest
/-!
Fields of a message: values under distinct keys, in the order in which the keys were first set. Each
kind of value has one text: numbers in decimal with no exponent, bytes as hexadecimal digits.
Setting a key again replaces its value where it stands (`getSet`, `keysSet`), so that keys stay
distinct (`distinctPlace`). `put` and `absorb` set like `set` and `merge` and tell whether a key is new.
-/
namespace LeveledLogging

inductive Value where
  | text (s : String)
  | integer (n : Int64)
  | float (x : Binary64)
  | boolean (b : Bool)
  | bytes (bs : List UInt8)
  deriving DecidableEq, Repr

def boolWord (b : Bool) : String := if b then "true" else "false"

namespace Value

def hexByte (b : UInt8) : List Char :=
  [Nat.digitChar (b.toNat / 16), Nat.digitChar (b.toNat % 16)]

def display : Value → String
  | .text s => s
  | .integer n => Text.integer n.toInt
  | .float x => x.text .plain
  | .boolean b => boolWord b
  | .bytes bs => String.ofList (bs.flatMap hexByte)

def integer? : Value → Option Int64
  | .integer n => some n
  | _ => none

def text? : Value → Option String
  | .text s => some s
  | _ => none

def bigEndian (n : Int64) : List UInt8 :=
  [56, 48, 40, 32, 24, 16, 8, 0].map fun (shift : UInt64) => (n.toUInt64 >>> shift).toUInt8

end Value

def messageKey : String := "_message"
def scopeKey : String := "_scope"
def fileKey : String := "_file"
def lineKey : String := "_line"

@[ext]
structure Fields where
  pairs : List (String × Value)
  distinct : (pairs.map Prod.fst).Nodup
  deriving DecidableEq, Repr

namespace Fields

def empty : Fields := ⟨[], List.nodup_nil⟩

def place (key : String) (value : Value) : List (String × Value) → List (String × Value)
  | [] => [(key, value)]
  | (k, v) :: rest => if k = key then (k, value) :: rest else (k, v) :: place key value rest

theorem keysPlace (key : String) (value : Value) (pairs : List (String × Value)) :
    (place key value pairs).map Prod.fst =
      if key ∈ pairs.map Prod.fst then pairs.map Prod.fst else pairs.map Prod.fst ++ [key] := by
  induction pairs with
  | nil => simp [place]
  | cons p rest ih =>
    obtain ⟨k', v⟩ := p
    by_cases h : k' = key
    · simp [place, h]
    · simp only [place, if_neg h, List.map_cons, ih, List.mem_cons, Ne.symm h, false_or]
      split <;> simp

theorem distinctPlace {pairs : List (String × Value)} (distinct : (pairs.map Prod.fst).Nodup)
    (key : String) (value : Value) : ((place key value pairs).map Prod.fst).Nodup := by
  rw [keysPlace]
  split
  · exact distinct
  · rename_i fresh
    have others : ∀ other ∈ pairs.map Prod.fst, other ≠ key := fun _ inside same => fresh (same ▸ inside)
    simpa [List.nodup_append, distinct] using others

def get? (fields : Fields) (key : String) : Option Value := fields.pairs.lookup key

def contains (fields : Fields) (key : String) : Bool := (fields.get? key).isSome

def keys (fields : Fields) : List String := fields.pairs.map Prod.fst

def set (fields : Fields) (key : String) (value : Value) : Fields :=
  ⟨place key value fields.pairs, distinctPlace fields.distinct key value⟩

def setAll (fields : Fields) (pairs : List (String × Value)) : Fields :=
  pairs.foldl (fun fs (k, v) => fs.set k v) fields

def ofPairs (pairs : List (String × Value)) : Fields := empty.setAll pairs

def merge (fields other : Fields) : Fields := fields.setAll other.pairs

def gains (fields other : Fields) : Bool := other.keys.any fun key => !fields.contains key

/- The pairs with a value under a key, and whether none of them had the key. -/
def enter (key : String) (value : Value) : List (String × Value) → Bool × List (String × Value)
  | [] => (true, [(key, value)])
  | (k, v) :: rest =>
    if k = key then (false, (k, value) :: rest)
    else
      let (added, pairs) := enter key value rest
      (added, (k, v) :: pairs)

theorem enterPlace (key : String) (value : Value) (pairs : List (String × Value)) :
    (enter key value pairs).2 = place key value pairs := by
  induction pairs with
  | nil => rfl
  | cons pair rest ih =>
    rw [enter, place, ← ih]
    split <;> rfl

def put (fields : Fields) (key : String) (value : Value) : Bool × Fields :=
  let entered := enter key value fields.pairs
  (entered.1, ⟨entered.2, enterPlace key value fields.pairs ▸ distinctPlace fields.distinct key value⟩)

def putAlso (state : Bool × Fields) (pair : String × Value) : Bool × Fields :=
  let (added, fields) := state.2.put pair.1 pair.2
  (state.1 || added, fields)

def absorb (fields other : Fields) : Bool × Fields := other.pairs.foldl putAlso (false, fields)

def size (fields : Fields) : Nat := fields.pairs.length

def isEmpty (fields : Fields) : Bool := fields.pairs.isEmpty

theorem lookupPlace (key k : String) (value : Value) (pairs : List (String × Value)) :
    (place key value pairs).lookup k = if k = key then some value else pairs.lookup k := by
  induction pairs with
  | nil => simp only [place, List.lookup_cons, List.lookup_nil]; split <;> simp_all
  | cons p rest ih =>
    obtain ⟨k', v⟩ := p
    simp only [place]
    by_cases h : k' = key
    · subst h
      simp only [if_pos trivial, List.lookup_cons]
      split <;> simp_all
    · simp only [if_neg h, List.lookup_cons, ih]
      split
      · rename_i hk
        have : k = k' := by simpa using hk
        rw [if_neg (this ▸ h)]
      · rfl

theorem pairsSet (fields : Fields) (key : String) (value : Value) :
    (fields.set key value).pairs = place key value fields.pairs := rfl

theorem getSet (fields : Fields) (key k : String) (value : Value) :
    (fields.set key value).get? k = if k = key then some value else fields.get? k :=
  lookupPlace key k value fields.pairs

theorem keysSet (fields : Fields) (key : String) (value : Value) :
    (fields.set key value).keys = if key ∈ fields.keys then fields.keys else fields.keys ++ [key] :=
  keysPlace key value fields.pairs

end Fields

end LeveledLogging
