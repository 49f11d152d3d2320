import LeveledLogging.Text.Integer
/-! Digits of a number. Written in any base up to sixteen, a number is read again from its digits
(`readDigitsWritten`), and a character that is no digit is not among them (`digitsWithout`). What is
read as an integer is a numeral within its bounds and nothing else (`readInt64Iff`). -/
namespace LeveledLogging.Text

theorem digitsWithout {base : Nat} (large : 1 < base) {c : Char}
    (other : ∀ d, Nat.digitChar d ≠ c) (n : Nat) : c ∉ Nat.toDigits base n := by
  induction n using Nat.strongRecOn with
  | ind n ih =>
    have last := other (n % base)
    rw [Nat.toDigits_eq_if large]
    split
    · simp [(other n).symm]
    · rename_i many
      have smaller : n / base < n := Nat.div_lt_self (by omega) large
      have front := ih (n / base) smaller
      simp [front, last.symm]

theorem digitValueWritten : ∀ d < 16, digitValue (Nat.digitChar d) = some d := by decide

theorem readDigitsFromAppend (base acc : Nat) (front back : List Char) :
    readDigitsFrom base acc (front ++ back) =
      (readDigitsFrom base acc front).bind fun value => readDigitsFrom base value back := by
  induction front generalizing acc with
  | nil => rfl
  | cons c rest ih =>
    rw [List.cons_append, readDigitsFrom, readDigitsFrom]
    cases digitValue c with
    | none => rfl
    | some d =>
      by_cases small : d < base
      · simp [small, ih]
      · simp [small]

theorem readDigitsFromDigit {base d : Nat} (small : d < base) (known : base ≤ 16) (acc : Nat) :
    readDigitsFrom base acc [Nat.digitChar d] = some (acc * base + d) := by
  simp [readDigitsFrom, digitValueWritten d (by omega), small]

theorem readDigitsFromWritten {base : Nat} (large : 1 < base) (known : base ≤ 16) (n : Nat) :
    readDigitsFrom base 0 (Nat.toDigits base n) = some n := by
  induction n using Nat.strongRecOn with
  | ind n ih =>
    rw [Nat.toDigits_eq_if large]
    split
    · rename_i small
      simpa using readDigitsFromDigit small known 0
    · rename_i many
      have smaller : n / base < n := Nat.div_lt_self (by omega) large
      have last : n % base < base := Nat.mod_lt n (by omega)
      rw [readDigitsFromAppend, ih (n / base) smaller, Option.bind_some,
        readDigitsFromDigit last known, Nat.div_add_mod']

theorem readDigitsWritten {base : Nat} (large : 1 < base) (known : base ≤ 16) (n : Nat) :
    readDigits base (Nat.toDigits base n) = some n := by
  have whole := readDigitsFromWritten large known n
  cases digits : Nat.toDigits base n with
  | nil => exact absurd digits Nat.toDigits_ne_nil
  | cons c rest => rwa [digits] at whole

def IsDecimal (c : Char) : Prop := '0' ≤ c ∧ c ≤ '9'

def decimalFrom (acc : Nat) (digits : List Char) : Nat :=
  digits.foldl (fun n c => n * 10 + (c.toNat - '0'.toNat)) acc

inductive Numeral : List Char → Int → Prop where
  | plain {digits} (visible : digits ≠ []) (decimal : ∀ c ∈ digits, IsDecimal c) :
    Numeral digits (decimalFrom 0 digits)
  | plus {digits} (visible : digits ≠ []) (decimal : ∀ c ∈ digits, IsDecimal c) :
    Numeral ('+' :: digits) (decimalFrom 0 digits)
  | minus {digits} (visible : digits ≠ []) (decimal : ∀ c ∈ digits, IsDecimal c) :
    Numeral ('-' :: digits) (-(decimalFrom 0 digits : Int))

theorem decimalDigit {c : Char} {d : Nat} :
    digitValue c = some d ∧ d < 10 ↔ IsDecimal c ∧ d = c.toNat - '0'.toNat := by
  unfold digitValue IsDecimal
  split
  · rename_i decimal
    have upTo : c.toNat ≤ '9'.toNat := decimal.2
    have top : '9'.toNat = 57 := rfl
    have bottom : '0'.toNat = 48 := rfl
    have small : c.toNat - '0'.toNat < 10 := by omega
    constructor
    · rintro ⟨value, _⟩
      exact ⟨decimal, (Option.some.inj value).symm⟩
    · rintro ⟨_, rfl⟩
      exact ⟨rfl, small⟩
  · rename_i other
    simp only [other, false_and, iff_false]
    split
    · simp only [Option.some.injEq]
      omega
    · split
      · simp only [Option.some.injEq]
        omega
      · simp

theorem readDecimalFrom {acc : Nat} {digits : List Char} {n : Nat} :
    readDigitsFrom 10 acc digits = some n ↔
      (∀ c ∈ digits, IsDecimal c) ∧ n = decimalFrom acc digits := by
  induction digits generalizing acc with
  | nil => simp [readDigitsFrom, decimalFrom, eq_comm]
  | cons c rest ih =>
    rw [readDigitsFrom, List.forall_mem_cons]
    by_cases decimal : IsDecimal c
    · obtain ⟨value, small⟩ := decimalDigit.mpr ⟨decimal, rfl⟩
      simp only [value, if_pos small, ih, decimal, true_and]
      rfl
    · have unread : ∀ d, digitValue c = some d → ¬ d < 10 := fun d value small =>
        decimal (decimalDigit.mp ⟨value, small⟩).1
      cases value : digitValue c with
      | none => simp [decimal]
      | some d => simp [decimal, unread d value]

theorem readDecimal {digits : List Char} {n : Nat} :
    readDigits 10 digits = some n ↔
      digits ≠ [] ∧ (∀ c ∈ digits, IsDecimal c) ∧ n = decimalFrom 0 digits := by
  cases digits with
  | nil => simp [readDigits]
  | cons c rest =>
    rw [readDigits, readDecimalFrom]
    simp

theorem readIntMinus (base : Nat) (s : List Char) :
    readIntChars base ('-' :: s) = (readDigits base s).map fun n => -(Int.ofNat n) := by
  rw [readIntChars]
  cases readDigits base s <;> rfl

theorem readIntCharsIff {s : List Char} {n : Int} : readIntChars 10 s = some n ↔ Numeral s n := by
  constructor
  · intro read
    by_cases negative : ∃ rest, s = '-' :: rest
    · obtain ⟨rest, rfl⟩ := negative
      rw [readIntMinus] at read
      obtain ⟨m, digits, rfl⟩ := Option.map_eq_some_iff.mp read
      obtain ⟨visible, decimal, rfl⟩ := readDecimal.mp digits
      exact .minus visible decimal
    · have unsigned : readIntChars 10 s = (readNatChars 10 s).map Int.ofNat := by
        rw [readIntChars]
        exact fun rest same => negative ⟨rest, same⟩
      rw [unsigned] at read
      obtain ⟨m, whole, rfl⟩ := Option.map_eq_some_iff.mp read
      unfold readNatChars at whole
      split at whole
      · obtain ⟨visible, decimal, rfl⟩ := readDecimal.mp whole
        exact .plus visible decimal
      · obtain ⟨visible, decimal, rfl⟩ := readDecimal.mp whole
        exact .plain visible decimal
  · intro numeral
    cases numeral with
    | plain visible decimal =>
      have read := readDecimal.mpr ⟨visible, decimal, rfl⟩
      cases s with
      | nil => contradiction
      | cons c rest =>
        have signless : c ≠ '-' ∧ c ≠ '+' := by
          have first := decimal c List.mem_cons_self
          constructor
          · rintro rfl
            exact absurd first.1 (by decide)
          · rintro rfl
            exact absurd first.1 (by decide)
        have unsigned : readIntChars 10 (c :: rest) = (readDigits 10 (c :: rest)).map Int.ofNat := by
          simp [readIntChars, readNatChars, signless]
        rw [unsigned, read]
        rfl
    | plus visible decimal =>
      have read := readDecimal.mpr ⟨visible, decimal, rfl⟩
      simp [readIntChars, readNatChars, read]
    | minus visible decimal =>
      have read := readDecimal.mpr ⟨visible, decimal, rfl⟩
      rw [readIntMinus, read]
      rfl

theorem readInt64Iff {s : String} {n : Int64} :
    readInt64 s = some n ↔ Numeral s.toList n.toInt := by
  have bounds : Int64.minValue.toInt = -2 ^ 63 ∧ Int64.maxValue.toInt = 2 ^ 63 - 1 := by decide
  have low := n.le_toInt
  have high := n.toInt_lt
  rw [← readIntCharsIff, readInt64, readInt, bounds.1, bounds.2]
  constructor
  · intro read
    obtain ⟨m, kept, rfl⟩ := Option.map_eq_some_iff.mp read
    obtain ⟨whole, within⟩ := Option.filter_eq_some_iff.mp kept
    rw [decide_eq_true_eq] at within
    rw [Int64.toInt_ofInt_of_le within.1 (by omega)]
    exact whole
  · intro whole
    have within : -2 ^ 63 ≤ n.toInt ∧ n.toInt ≤ 2 ^ 63 - 1 := by omega
    rw [whole, Option.filter_some, if_pos (decide_eq_true within), Option.map_some, Int64.ofInt_toInt]

theorem integerNumeral (n : Int) : Numeral (integer n).toList n := by
  obtain ⟨visible, decimal, value⟩ :=
    readDecimal.mp (readDigitsWritten (by decide) (by decide) n.natAbs)
  unfold integer
  generalize Nat.toDigits 10 n.natAbs = digits at visible decimal value ⊢
  split
  · have negative : n = -(decimalFrom 0 digits : Int) := by omega
    have signed : ("-" ++ String.ofList digits).toList = '-' :: digits := by simp
    rw [negative, signed]
    exact .minus visible decimal
  · have positive : n = (decimalFrom 0 digits : Int) := by omega
    rw [positive, String.toList_ofList]
    exact .plain visible decimal

theorem readInt64Written (n : Int64) : readInt64 (integer n.toInt) = some n :=
  readInt64Iff.mpr (integerNumeral n.toInt)

end LeveledLogging.Text
