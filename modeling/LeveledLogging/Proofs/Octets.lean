import Mathlib.Data.List.Basic
import Mathlib.Tactic.SplitIfs
/-! Texts as they are stored. The order of texts goes by their characters; that of the octets that
encode them is the same, since an encoding never starts like that of another character and the earlier
character has the lesser octet where the two part (`octetsLess`). -/
namespace LeveledLogging.Text

def octets (s : String) : List UInt8 := s.toUTF8.data.toList

theorem octetsOfChars (s : String) : octets s = s.toList.flatMap String.utf8EncodeChar := by
  rw [octets, String.toUTF8_eq_toByteArray, ← String.utf8Encode_toList, List.utf8Encode,
    List.toList_data_toByteArray]

theorem octetBefore {m n : Nat} (small : m < 256) (smallToo : n < 256) (x y : List UInt8) :
    UInt8.ofNat m :: x < UInt8.ofNat n :: y ↔ m < n ∨ m = n ∧ x < y := by
  rw [List.cons_lt_cons_iff, UInt8.lt_iff_toNat_lt, ← UInt8.toNat_inj,
    UInt8.toNat_ofNat_of_lt' small, UInt8.toNat_ofNat_of_lt' smallToo]

theorem characterBefore {c d : Char} (less : c < d) (x y : List UInt8) :
    String.utf8EncodeChar c ++ x < String.utf8EncodeChar d ++ y := by
  have order : c.val.toNat < d.val.toNat := less
  have bound : d.val.toNat < 0x110000 := by
    rcases d.valid with low | high <;> omega
  have digits : ∀ v, v / 4096 = v / 64 / 64 ∧ v / 262144 = v / 64 / 64 / 64 := by omega
  simp only [String.utf8EncodeChar, digits]
  -- a first octet tells how many follow; between equal numbers of them the digits to base 64 decide
  split_ifs
  all_goals
    simp (disch := omega) only [List.cons_append, List.nil_append, octetBefore]
    omega

theorem charactersBefore {a b : List Char} (less : a < b) :
    a.flatMap String.utf8EncodeChar < b.flatMap String.utf8EncodeChar := by
  induction a generalizing b with
  | nil =>
    cases b with
    | nil => exact absurd less (List.lt_irrefl _)
    | cons d rest =>
      rw [List.flatMap_cons, List.flatMap_nil]
      have some : String.utf8EncodeChar d ++ rest.flatMap String.utf8EncodeChar ≠ [] :=
        List.append_ne_nil_of_left_ne_nil String.utf8EncodeChar_ne_nil _
      obtain ⟨first, others, parts⟩ := List.exists_cons_of_ne_nil some
      rw [parts]
      exact List.nil_lt_cons _ _
  | cons c tail ih =>
    cases b with
    | nil => exact absurd less (List.not_lt_nil _)
    | cons d rest =>
      rw [List.flatMap_cons, List.flatMap_cons]
      rcases List.cons_lt_cons_iff.mp less with before | ⟨rfl, after⟩
      · exact characterBefore before _ _
      · exact List.append_left_lt (ih after)

theorem octetsLess {a b : String} : octets a < octets b ↔ a < b := by
  have forward : ∀ {a b : String}, a < b → octets a < octets b := by
    intro a b less
    rw [octetsOfChars, octetsOfChars]
    exact charactersBefore (String.lt_iff.mp less)
  constructor
  · intro less
    by_contra notLess
    by_cases same : a = b
    · rw [same] at less
      exact List.lt_irrefl _ less
    · have more : b < a := Std.lt_of_le_of_ne (String.not_lt.mp notLess) (Ne.symm same)
      exact List.lt_asymm less (forward more)
  · exact forward

end LeveledLogging.Text
