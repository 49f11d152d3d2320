import LeveledLogging.Level
import LeveledLogging.Proofs.Blanks
import LeveledLogging.Entries
import Mathlib
/-! How a level can be spelled. A word spells a level if it is one of the spellings with every letter in
either case (`Level.Spells`); what is read as a level are these words with blanks around them, and no
other texts (`Level.readIff`). Lower case is taken by the full rule, but the characters outside of
ASCII do not matter: the only small letter that one of them has as its lower case is the letter k,
which no spelling has. -/
namespace LeveledLogging

namespace Text

theorem smallNumber {c : Char} (small : c.isLower = true) : 97 ≤ c.toNat ∧ c.toNat ≤ 122 := by
  simpa [Char.isLower, UInt32.le_iff_toNat_le] using small

theorem letterNumber {c : Char} (letter : c.isAlpha = true) : 65 ≤ c.toNat ∧ c.toNat ≤ 122 := by
  simp only [Char.isAlpha, Char.isLower, Char.isUpper, UInt32.le_iff_toNat_le, ge_iff_le,
    Bool.or_eq_true, Bool.and_eq_true, decide_eq_true_eq] at letter
  change (65 ≤ c.toNat ∧ c.toNat ≤ 90) ∨ (97 ≤ c.toNat ∧ c.toNat ≤ 122) at letter
  omega

theorem letterVisible {c : Char} (letter : c.isAlpha = true) : isBlank c = false := by
  have bounds := letterNumber letter
  simp [isBlank]
  omega

theorem lowerAfterPlain (before : List Char) {s : List Char} (plain : ∀ c ∈ s, c.toNat < 0x80) :
    lowerAfter before s = s.map Char.toLower := by
  induction s generalizing before with
  | nil => rfl
  | cons c rest ih =>
    have here : c.toNat < 0x80 := plain c List.mem_cons_self
    have notSigma : c ≠ 'Σ' := fun same => absurd here (same ▸ by decide)
    have notDotted : c ≠ 'İ' := fun same => absurd here (same ▸ by decide)
    have others := ih (c :: before) fun d inside => plain d (List.mem_cons_of_mem c inside)
    rw [lowerAfter, others, if_neg notSigma, if_neg notDotted, lowerChar, if_pos here]
    rfl

/- No run of characters leads into ASCII, apart from the sign for kelvin. -/
theorem lowerRunsOutside : ∀ run ∈ lowerRuns,
    0x80 ≤ (run.1 : Int) + run.2.2.2 ∨ run = (0x212A, 0x212A, 1, -8383) := by
  decide +kernel

theorem lowerCharOutside {c : Char} (outside : 0x80 ≤ c.toNat)
    (small : (lowerChar c).isLower = true) : lowerChar c = 'k' := by
  unfold lowerChar at small ⊢
  rw [if_neg (Nat.not_lt.mpr outside)] at small ⊢
  split at small
  · rename_i first last step distance found
    have fits := List.find?_some found
    simp only [Bool.and_eq_true, decide_eq_true_eq] at fits
    obtain ⟨⟨above, below⟩, _⟩ := fits
    rcases lowerRunsOutside _ (List.mem_of_find?_eq_some found) with high | kelvin
    · change 0x80 ≤ (first : Int) + distance at high
      have bounds := smallNumber small
      rw [Char.toNat_ofNat] at bounds
      split at bounds <;> omega
    · cases kelvin
      have same : c.toNat = 0x212A := Nat.le_antisymm below above
      rw [same]
      rfl
  · have bounds := smallNumber small
    omega

theorem plainHead {before rest : List Char} {c : Char}
    (small : ∀ d ∈ lowerAfter before (c :: rest), d.isLower = true ∧ d ≠ 'k') : c.toNat < 0x80 := by
  rw [lowerAfter] at small
  by_cases sigma : c = 'Σ'
  · rw [if_pos sigma] at small
    split at small
    · exact absurd (small 'ς' List.mem_cons_self).1 (by decide)
    · exact absurd (small 'σ' List.mem_cons_self).1 (by decide)
  rw [if_neg sigma] at small
  by_cases dotted : c = 'İ'
  · rw [if_pos dotted] at small
    exact absurd (small '\u0307' (List.mem_cons_of_mem _ List.mem_cons_self)).1 (by decide)
  · rw [if_neg dotted] at small
    obtain ⟨lower, other⟩ := small (lowerChar c) List.mem_cons_self
    by_contra outside
    exact other (lowerCharOutside (Nat.not_lt.mp outside) lower)

theorem plainOfLower {before s : List Char}
    (small : ∀ c ∈ lowerAfter before s, c.isLower = true ∧ c ≠ 'k') : ∀ c ∈ s, c.toNat < 0x80 := by
  induction s generalizing before with
  | nil => simp
  | cons c rest ih =>
    have later : ∀ d ∈ lowerAfter (c :: before) rest, d.isLower = true ∧ d ≠ 'k' :=
      fun d inside => small d (List.mem_append_right _ inside)
    exact List.forall_mem_cons.mpr ⟨plainHead small, ih later⟩

theorem lowerAfterIff {before s t : List Char} (small : ∀ c ∈ t, c.isLower = true ∧ c ≠ 'k') :
    lowerAfter before s = t ↔ s.map Char.toLower = t := by
  constructor
  · intro lowered
    rw [← lowerAfterPlain before (plainOfLower (lowered ▸ small))]
    exact lowered
  · intro lowered
    rw [lowerAfterPlain before, lowered]
    intro c inside
    have own := (small c.toLower (lowered ▸ List.mem_map_of_mem inside)).1
    rw [Char.isLower_toLower_eq_isAlpha] at own
    have bounds := letterNumber own
    omega

end Text

namespace Level

def Spells (word : String) (level : Level) : Prop :=
  ∃ spelling, (spelling, level) ∈ spellings ∧ word.toList.map Char.toLower = spelling.toList

theorem spellingsSmall : ∀ pair ∈ spellings, ∀ c ∈ pair.1.toList, c.isLower = true ∧ c ≠ 'k' := by
  simp [spellings]

theorem Spells.letters {word : String} {level : Level} (spelled : Spells word level) :
    ∀ c ∈ word.toList, c.isAlpha = true := by
  obtain ⟨spelling, listed, same⟩ := spelled
  intro c inside
  have small := spellingsSmall _ listed c.toLower (same ▸ List.mem_map_of_mem inside)
  rw [← Char.isLower_toLower_eq_isAlpha]
  exact small.1

theorem Spells.bare {word : String} {level : Level} (spelled : Spells word level) :
    Text.Bare word.toList :=
  ⟨fun c first => Text.letterVisible (spelled.letters c (List.mem_of_mem_head? first)),
    fun c last => Text.letterVisible (spelled.letters c (List.mem_of_mem_getLast? last))⟩

theorem Spells.without {word : String} {level : Level} (spelled : Spells word level) {c : Char}
    (sign : c.isAlpha = false) : c ∉ word.toList := by
  intro inside
  rw [spelled.letters c inside] at sign
  contradiction

theorem wordSpells (level : Level) : level.Spells level.word := by
  have all : ∀ level ∈ all, (level.word, level) ∈ spellings ∧
      level.word.toList.map Char.toLower = level.word.toList := by
    decide
  exact ⟨level.word, all level (allListed level)⟩

theorem lookupSpellings {word : String} {level : Level} :
    spellings.lookup word = some level ↔ (word, level) ∈ spellings := by
  have distinct : (Entries.keys spellings).Nodup := by decide
  exact ⟨Entries.findSomeMember, Entries.findMember distinct⟩

theorem readTrimmed {text : String} {level : Level} :
    read text = .ok level ↔ Spells (Text.trim text) level := by
  have listed : read text = .ok level ↔
      (Text.lowercase (Text.trim text), level) ∈ spellings := by
    rw [← lookupSpellings, read]
    cases spellings.lookup (Text.lowercase (Text.trim text)) <;> simp
  rw [listed]
  constructor
  · intro inside
    refine ⟨_, inside, ?_⟩
    rw [← Text.lowerAfterIff (spellingsSmall _ inside), Text.lowercase, String.toList_ofList]
  · intro spelled
    obtain ⟨spelling, inside, same⟩ := spelled
    rw [← Text.lowerAfterIff (spellingsSmall _ inside)] at same
    rw [Text.lowercase, same, String.ofList_toList]
    exact inside

theorem readIff {text : String} {level : Level} :
    read text = .ok level ↔ ∃ word, Text.Padded word text ∧ Spells word level := by
  rw [readTrimmed]
  constructor
  · intro spelled
    exact ⟨_, Text.paddedTrim text, spelled⟩
  · intro ⟨word, padded, spelled⟩
    rw [Text.trimPadded padded, Text.trimBare spelled.bare]
    exact spelled

end Level

end LeveledLogging
