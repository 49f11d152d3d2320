/-!
Text cut at a separator and put back together, and text without the blank space at its ends. Cutting
and joining are inverse to each other: `joinSplit` holds for every text, `splitJoin` for pieces that
hold no separator. A character is blank if it has the Unicode property `White_Space`.
-/
namespace LeveledLogging.Text

def splitChars (c : Char) : List Char → List (List Char)
  | [] => [[]]
  | x :: xs =>
    if x = c then [] :: splitChars c xs
    else match splitChars c xs with
      | [] => [[x]]
      | p :: ps => (x :: p) :: ps

def joinChars (c : Char) : List (List Char) → List Char
  | [] => []
  | [p] => p
  | p :: q :: ps => p ++ c :: joinChars c (q :: ps)

theorem splitCharsNonempty (c : Char) (s : List Char) : splitChars c s ≠ [] := by
  cases s with
  | nil => simp [splitChars]
  | cons x xs =>
    by_cases h : x = c
    · simp [splitChars, h]
    · simp only [splitChars, if_neg h]
      split <;> simp

theorem joinCharsCons {c : Char} {p : List Char} {ps : List (List Char)} (h : ps ≠ []) :
    joinChars c (p :: ps) = p ++ c :: joinChars c ps := by
  cases ps with
  | nil => exact absurd rfl h
  | cons q qs => rfl

theorem joinCharsAppend {c : Char} {ps qs : List (List Char)} (first : ps ≠ []) (second : qs ≠ []) :
    joinChars c (ps ++ qs) = joinChars c ps ++ c :: joinChars c qs := by
  induction ps with
  | nil => contradiction
  | cons p rest ih =>
    by_cases last : rest = []
    · rw [last, List.singleton_append, joinCharsCons second, joinChars]
    · rw [List.cons_append, joinCharsCons (by simp [last]), joinCharsCons last, ih last]
      simp

theorem joinSplitChars (c : Char) (s : List Char) : joinChars c (splitChars c s) = s := by
  induction s with
  | nil => rfl
  | cons x xs ih =>
    by_cases h : x = c
    · simp only [splitChars, if_pos h]
      rw [joinCharsCons (splitCharsNonempty c xs), ih, h]
      rfl
    · simp only [splitChars, if_neg h]
      cases hs : splitChars c xs with
      | nil => exact absurd hs (splitCharsNonempty c xs)
      | cons p ps =>
        rw [hs] at ih
        cases ps with
        | nil => simpa [joinChars] using ih
        | cons q qs => simpa [joinChars] using ih

theorem splitCharsFree {c : Char} {s p : List Char} (h : p ∈ splitChars c s) :
    c ∉ p := by
  induction s generalizing p with
  | nil =>
    simp only [splitChars, List.mem_singleton] at h
    simp [h]
  | cons x xs ih =>
    by_cases hx : x = c
    · simp only [splitChars, if_pos hx, List.mem_cons] at h
      rcases h with rfl | h
      · simp
      · exact ih h
    · simp only [splitChars, if_neg hx] at h
      cases hs : splitChars c xs with
      | nil => exact absurd hs (splitCharsNonempty c xs)
      | cons q qs =>
        rw [hs] at h ih
        rcases List.mem_cons.1 h with rfl | h
        · have := ih (List.mem_cons_self ..)
          simp [this, Ne.symm hx]
        · exact ih (List.mem_cons_of_mem _ h)

theorem splitCharsSingle {c : Char} {p : List Char} (h : c ∉ p) : splitChars c p = [p] := by
  induction p with
  | nil => rfl
  | cons x xs ih =>
    have hx : x ≠ c := fun e => h (by simp [e])
    have hxs : c ∉ xs := fun e => h (List.mem_cons_of_mem _ e)
    simp [splitChars, hx, ih hxs]

theorem splitCharsCons {c : Char} {p : List Char} (h : c ∉ p) (s : List Char) :
    splitChars c (p ++ c :: s) = p :: splitChars c s := by
  induction p with
  | nil => simp [splitChars]
  | cons x xs ih =>
    have hx : x ≠ c := fun e => h (by simp [e])
    have hxs : c ∉ xs := fun e => h (List.mem_cons_of_mem _ e)
    simp [splitChars, hx, ih hxs]

theorem splitCharsAppend (c : Char) (a b : List Char) :
    splitChars c (a ++ c :: b) = splitChars c a ++ splitChars c b := by
  induction a with
  | nil => simp [splitChars]
  | cons x xs ih =>
    by_cases h : x = c
    · simp [splitChars, h, ih]
    · cases hs : splitChars c xs with
      | nil => exact absurd hs (splitCharsNonempty c xs)
      | cons p ps => simp [splitChars, h, ih, hs]

theorem splitJoinChars {c : Char} {ps : List (List Char)} (hne : ps ≠ [])
    (h : ∀ p ∈ ps, c ∉ p) : splitChars c (joinChars c ps) = ps := by
  induction ps with
  | nil => exact absurd rfl hne
  | cons p ps ih =>
    cases ps with
    | nil => exact splitCharsSingle (h p (List.mem_cons_self ..))
    | cons q qs =>
      rw [joinCharsCons (by simp), splitCharsCons (h p (List.mem_cons_self ..)),
        ih (by simp) fun r hr => h r (List.mem_cons_of_mem _ hr)]

def split (c : Char) (s : String) : List String :=
  (splitChars c s.toList).map String.ofList

def join (c : Char) (ps : List String) : String :=
  String.ofList (joinChars c (ps.map String.toList))

theorem splitNonempty (c : Char) (s : String) : split c s ≠ [] := by
  simp [split, splitCharsNonempty]

theorem splitToList (c : Char) (s : String) :
    (split c s).map String.toList = splitChars c s.toList := by
  simp [split, Function.comp_def]

theorem joinSplit (c : Char) (s : String) : join c (split c s) = s := by
  rw [join, splitToList, joinSplitChars, String.ofList_toList]

theorem splitJoin {c : Char} {ps : List String} (hne : ps ≠ [])
    (h : ∀ p ∈ ps, c ∉ p.toList) : split c (join c ps) = ps := by
  rw [split, join, String.toList_ofList, splitJoinChars (by simpa using hne) (by simpa using h)]
  simp [Function.comp_def]

theorem splitAppend (c : Char) (a b : String) :
    split c (a ++ String.singleton c ++ b) = split c a ++ split c b := by
  simp [split, splitCharsAppend]

theorem joinCons {c : Char} {p : String} {ps : List String} (h : ps ≠ []) :
    join c (p :: ps) = p ++ String.singleton c ++ join c ps := by
  apply String.toList_inj.mp
  simp [join, joinCharsCons (show ps.map String.toList ≠ [] by simpa using h)]

theorem splitFree {c : Char} {s p : String} (h : p ∈ split c s) : c ∉ p.toList := by
  obtain ⟨q, hq, rfl⟩ := List.mem_map.1 h
  simpa using splitCharsFree hq

def cutChars (c : Char) : List Char → Option (List Char × List Char)
  | [] => none
  | x :: xs => if x = c then some ([], xs) else (cutChars c xs).map fun (a, b) => (x :: a, b)

def cut (c : Char) (s : String) : Option (String × String) :=
  (cutChars c s.toList).map fun (a, b) => (String.ofList a, String.ofList b)

theorem cutCharsFirst {c : Char} {a : List Char} (h : c ∉ a) (b : List Char) :
    cutChars c (a ++ c :: b) = some (a, b) := by
  induction a with
  | nil => simp [cutChars]
  | cons x xs ih =>
    have hx : x ≠ c := fun e => h (by simp [e])
    have hxs : c ∉ xs := fun e => h (List.mem_cons_of_mem _ e)
    simp [cutChars, hx, ih hxs]

theorem cutCharsNone {c : Char} {s : List Char} : cutChars c s = none ↔ c ∉ s := by
  induction s with
  | nil => simp [cutChars]
  | cons x xs ih =>
    by_cases h : x = c
    · simp [cutChars, h]
    · simp [cutChars, h, ih, Ne.symm h]

theorem cutNone {c : Char} {s : String} : cut c s = none ↔ c ∉ s.toList := by
  rw [cut, Option.map_eq_none_iff, cutCharsNone]

theorem cutCharsSome {c : Char} {s a b : List Char} (h : cutChars c s = some (a, b)) :
    s = a ++ c :: b ∧ c ∉ a := by
  induction s generalizing a with
  | nil => simp [cutChars] at h
  | cons x xs ih =>
    rw [cutChars] at h
    split at h
    · rename_i here
      cases h
      simp [here]
    · rename_i other
      obtain ⟨⟨first, rest⟩, found, same⟩ := Option.map_eq_some_iff.mp h
      cases same
      obtain ⟨parts, free⟩ := ih found
      exact ⟨congrArg (x :: ·) parts, by simp [free, Ne.symm other]⟩

theorem cutSome {c : Char} {s a b : String} (h : cut c s = some (a, b)) :
    s.toList = a.toList ++ c :: b.toList ∧ c ∉ a.toList := by
  obtain ⟨⟨first, rest⟩, found, same⟩ := Option.map_eq_some_iff.mp h
  cases same
  simpa using cutCharsSome found

/-! ## Blank space -/

def isBlank (c : Char) : Bool :=
  let n := c.toNat
  (9 ≤ n && n ≤ 13) || n = 0x20 || n = 0x85 || n = 0xA0 || n = 0x1680 ||
    (0x2000 ≤ n && n ≤ 0x200A) || n = 0x2028 || n = 0x2029 || n = 0x202F || n = 0x205F || n = 0x3000

def trimStartChars (s : List Char) : List Char := s.dropWhile isBlank

def trimEndChars (s : List Char) : List Char := (s.reverse.dropWhile isBlank).reverse

def trimChars (s : List Char) : List Char := trimEndChars (trimStartChars s)

def trim (s : String) : String := String.ofList (trimChars s.toList)

theorem trimStartCharsVisible {c : Char} {s : List Char} (h : isBlank c = false) :
    trimStartChars (c :: s) = c :: s := by
  simp [trimStartChars, h]

theorem trimEndCharsVisible {c : Char} {s : List Char} (h : isBlank c = false) :
    trimEndChars (s ++ [c]) = s ++ [c] := by
  simp [trimEndChars, h]

end LeveledLogging.Text
