import LeveledLogging.Command.Run
import LeveledLogging.Proofs.Blanks
import LeveledLogging.Proofs.Digits
import LeveledLogging.Proofs.Insertions
import LeveledLogging.Proofs.Lines
import LeveledLogging.Proofs.Results
/-! What was written between quotation marks and braces can be told from the text. No spelling of a
character is the beginning of another one or of the closing mark (`readSpellingWritten`), so that a
quotation ends in one place only (`quotedCancel`). A key is written as it is and ends at the first
equals sign; among keys without that sign no two lists of values have one text (`valuesUnambiguous`). -/
namespace LeveledLogging

namespace Text

def spelledLetters : List (Char × Char) :=
  [('0', '\x00'), ('t', '\t'), ('n', '\n'), ('r', '\r'), ('\x22', '\x22'), ('\\', '\\')]

def readNumbered (s : List Char) : Option (Char × List Char) :=
  match cutChars '\x7d' s with
  | some ('u' :: '\x7b' :: digits, rest) =>
    (readDigits 16 digits).map fun code => (Char.ofNat code, rest)
  | _ => none

def readSpelling : List Char → Option (Char × List Char)
  | [] => none
  | c :: rest =>
    if c = '\x22' then none
    else if c ≠ '\\' then some (c, rest)
    else match rest with
      | [] => none
      | letter :: more =>
        match spelledLetters.lookup letter with
        | some spelled => some (spelled, more)
        | none => readNumbered rest

theorem readNumberedWritten (c : Char) (rest : List Char) :
    readNumbered ('u' :: '\x7b' :: hexDigits c.toNat ++ '\x7d' :: rest) = some (c, rest) := by
  have closing : ∀ d, Nat.digitChar d ≠ '\x7d' := by grind [Nat.digitChar]
  have inside : '\x7d' ∉ 'u' :: '\x7b' :: hexDigits c.toNat := by
    simp [hexDigits, digitsWithout (by decide : 1 < 16) closing]
  have digits : readDigits 16 (hexDigits c.toNat) = some c.toNat :=
    readDigitsWritten (by decide) (by decide) c.toNat
  rw [readNumbered, cutCharsFirst inside]
  simp [digits, Char.ofNat_toNat]

theorem readSpellingLetter {letter spelled : Char}
    (listed : spelledLetters.lookup letter = some spelled) (rest : List Char) :
    readSpelling ('\\' :: letter :: rest) = some (spelled, rest) := by
  simp [readSpelling, listed]

theorem letteredSpelling : ∀ pair ∈ spelledLetters,
    escapeChar pair.2 = ['\\', pair.1] ∧ spelledLetters.lookup pair.1 = some pair.2 := by
  decide

theorem readSpellingWritten (c : Char) (rest : List Char) :
    readSpelling (escapeChar c ++ rest) = some (c, rest) := by
  by_cases lettered : c ∈ spelledLetters.map Prod.snd
  · obtain ⟨pair, inside, rfl⟩ := List.mem_map.mp lettered
    obtain ⟨written, listed⟩ := letteredSpelling pair inside
    rw [written]
    exact readSpellingLetter listed rest
  · simp only [spelledLetters, List.map_cons, List.map_nil, List.mem_cons, List.not_mem_nil, or_false,
      not_or] at lettered
    obtain ⟨zero, tab, feed, back, mark, slash⟩ := lettered
    simp only [escapeChar, if_neg zero, if_neg tab, if_neg feed, if_neg back, if_neg mark, if_neg slash]
    split
    · simp [readSpelling, mark, slash]
    · have unlisted : spelledLetters.lookup 'u' = none := rfl
      have numbered := readNumberedWritten c rest
      simp only [List.cons_append, List.append_assoc] at numbered ⊢
      simpa [readSpelling, unlisted] using numbered

/- A quotation ends at the first mark that spells nothing. -/
theorem quotedCancel {s t rest more : List Char}
    (same : s.flatMap escapeChar ++ '\x22' :: rest = t.flatMap escapeChar ++ '\x22' :: more) :
    s = t ∧ rest = more := by
  have mark : ∀ after, readSpelling ('\x22' :: after) = none := fun _ => rfl
  -- On the first text; each spelling says how far it goes, so the other text must begin with it too.
  induction s generalizing t with
  | nil =>
    cases t with
    | nil => exact ⟨rfl, (List.cons.inj same).2⟩
    | cons d others =>
      rw [List.flatMap_cons, List.append_assoc] at same
      have spelled := readSpellingWritten d (others.flatMap escapeChar ++ '\x22' :: more)
      rw [← same, List.flatMap_nil, List.nil_append, mark] at spelled
      contradiction
  | cons c letters ih =>
    rw [List.flatMap_cons, List.append_assoc] at same
    have spelled := readSpellingWritten c (letters.flatMap escapeChar ++ '\x22' :: rest)
    cases t with
    | nil =>
      rw [same, List.flatMap_nil, List.nil_append, mark] at spelled
      contradiction
    | cons d others =>
      rw [List.flatMap_cons, List.append_assoc] at same
      rw [same, readSpellingWritten] at spelled
      obtain ⟨first, after⟩ := Prod.mk.inj (Option.some.inj spelled)
      obtain ⟨letters, behind⟩ := ih after.symm
      exact ⟨by rw [first, letters], behind⟩

end Text

namespace Record

open Text

def pairChars (pair : String × String) : List Char :=
  pair.1.toList ++ '=' :: quoteChars pair.2.toList

theorem pairTextChars (pair : String × String) : (pairText pair).toList = pairChars pair := by
  simp [pairText, pairChars, quote]

def Signless (pairs : List (String × String)) : Prop := ∀ pair ∈ pairs, '=' ∉ pair.1.toList

theorem pairCancel {one other : String × String} (free : '=' ∉ one.1.toList)
    (freeToo : '=' ∉ other.1.toList) {rest more : List Char}
    (same : pairChars one ++ rest = pairChars other ++ more) : one = other ∧ rest = more := by
  simp only [pairChars, List.append_assoc, List.cons_append] at same
  have parts := cutCharsFirst free (quoteChars one.2.toList ++ rest)
  rw [same, cutCharsFirst freeToo] at parts
  obtain ⟨keys, quotations⟩ := Prod.mk.inj (Option.some.inj parts)
  simp only [quoteChars, List.cons_append, List.append_assoc, List.nil_append] at quotations
  obtain ⟨values, behind⟩ := quotedCancel (List.cons.inj quotations).2
  exact ⟨Prod.ext (String.toList_inj.mp keys.symm) (String.toList_inj.mp values.symm), behind.symm⟩

def behindChars : List (String × String) → List Char
  | [] => ['\x7d']
  | pair :: rest => ' ' :: pairChars pair ++ behindChars rest

theorem bracedChars (first : String × String) (rest : List (String × String)) :
    (bracedText (first :: rest)).toList = '\x7b' :: pairChars first ++ behindChars rest := by
  have joined : ∀ first, joinChars ' ' ((first :: rest).map pairChars) ++ ['\x7d'] =
      pairChars first ++ behindChars rest := by
    induction rest with
    | nil => simp [joinChars, behindChars]
    | cons next more ih =>
      intro first
      rw [List.map_cons, joinCharsCons (by simp), List.append_assoc, List.cons_append, ih next]
      rfl
  have characters : (first :: rest).map (String.toList ∘ pairText) = (first :: rest).map pairChars :=
    List.map_congr_left fun pair _ => pairTextChars pair
  have braces : "\x7b".toList = ['\x7b'] ∧ "\x7d".toList = ['\x7d'] := by decide
  rw [bracedText, if_neg (by simp), String.toList_append, String.toList_append, braces.1, braces.2,
    join, String.toList_ofList, List.map_map, characters, List.append_assoc, joined first]
  rfl

theorem behindCancel {one other : List (String × String)} (free : Signless one)
    (freeToo : Signless other) (same : behindChars one = behindChars other) : one = other := by
  have apart : '\x7d' ≠ ' ' := by decide
  induction one generalizing other with
  | nil =>
    cases other with
    | nil => rfl
    | cons pair rest => exact absurd (List.cons.inj same).1 apart
  | cons pair rest ih =>
    cases other with
    | nil => exact absurd (List.cons.inj same).1 apart.symm
    | cons next more =>
      obtain ⟨here, later⟩ := List.forall_mem_cons.mp free
      obtain ⟨hereToo, laterToo⟩ := List.forall_mem_cons.mp freeToo
      obtain ⟨first, behind⟩ := pairCancel here hereToo (List.cons.inj same).2
      rw [first, ih later laterToo behind]

theorem bracedCancel {one other : List (String × String)} (free : Signless one)
    (freeToo : Signless other) (same : bracedText one = bracedText other) : one = other := by
  have letters := congrArg String.toList same
  cases one with
  | nil =>
    cases other with
    | nil => rfl
    | cons pair rest =>
      rw [bracedChars] at letters
      contradiction
  | cons pair rest =>
    cases other with
    | nil =>
      rw [bracedChars] at letters
      contradiction
    | cons next more =>
      rw [bracedChars, bracedChars] at letters
      have inner : behindChars (pair :: rest) = behindChars (next :: more) :=
        congrArg (' ' :: ·) (List.cons.inj letters).2
      exact behindCancel free freeToo inner

theorem keySignless {field : String} {pair : String × Value}
    (read : Command.readField field = .ok pair) : '=' ∉ pair.1.toList := by
  unfold Command.readField at read
  split at read
  · contradiction
  · rename_i key value parts
    dsimp only at read
    split at read
    · contradiction
    · cases read
      exact fun inside => (cutSome parts).2 ((paddedTrim key).subset inside)

theorem keysSignless {fields : List String} {pairs : List (String × Value)}
    (read : fields.mapM Command.readField = .ok pairs) :
    ∀ key ∈ (Fields.ofPairs pairs).keys, '=' ∉ key.toList := by
  intro key inside
  rw [Fields.keysOfPairs, List.mem_eraseDups] at inside
  obtain ⟨pair, there, rfl⟩ := List.mem_map.mp inside
  obtain ⟨field, _, here⟩ := relatedOrigin (mapMOk.mp read) pair there
  exact keySignless here

theorem readSignless {fields : List String} {pairs : List (String × Value)}
    (read : fields.mapM Command.readField = .ok pairs) (site : CallSite) (text : String) :
    Signless (ofPairs (site.pairs ++ (Fields.ofPairs pairs).pairs ++
      [(messageKey, .text text)])).values := by
  have placed : '=' ∉ fileKey.toList ∧ '=' ∉ lineKey.toList ∧ '=' ∉ messageKey.toList := by decide
  intro shown inside
  rw [valuesOfPairs] at inside
  obtain ⟨pair, kept, rfl⟩ := List.mem_map.mp inside
  rcases List.mem_append.mp (List.mem_filter.mp kept).1 with front | last
  · rcases List.mem_append.mp front with ofSite | ofFields
    · simp only [CallSite.pairs, List.mem_cons, List.not_mem_nil, or_false] at ofSite
      rcases ofSite with rfl | rfl
      · exact placed.1
      · exact placed.2.1
    · exact keysSignless read pair.1 (List.mem_map_of_mem ofFields)
  · cases List.mem_singleton.mp last
    exact placed.2.2

theorem valuesUnambiguous :
    (∀ one other : Record, Signless one.values → Signless other.values →
      (one.valuesText = other.valuesText ↔ one.values = other.values)) ∧
    ∀ (fields : List String) pairs, fields.mapM Command.readField = .ok pairs → ∀ (site : CallSite) text,
      Signless (ofPairs (site.pairs ++ (Fields.ofPairs pairs).pairs ++
        [(messageKey, .text text)])).values := by
  refine ⟨?_, fun _ _ read => readSignless read⟩
  intro one other free freeToo
  exact ⟨bracedCancel free freeToo, congrArg bracedText⟩

theorem valueLikePairsTold :
    let fields := ["a=x\" b=\"y"]
    let pairs := [("a", Value.text "x\" b=\"y")]
    let site : CallSite := ⟨"m", 1⟩
    let one := ofPairs (site.pairs ++ (Fields.ofPairs pairs).pairs ++ [(messageKey, .text "hi")])
    let other := ofPairs [("a", .text "x"), ("b", .text "y")]
    fields.mapM Command.readField = .ok pairs ∧ Signless one.values ∧ Signless other.values ∧
      one.valuesText ≠ other.valuesText := by
  intro fields pairs site one other
  have read : fields.mapM Command.readField = .ok pairs := by decide
  have free : Signless one.values := valuesUnambiguous.2 fields pairs read site "hi"
  have freeToo : Signless other.values := by unfold Signless; decide
  refine ⟨read, free, freeToo, ?_⟩
  intro same
  have alike := (valuesUnambiguous.1 one other free freeToo).mp same
  have lengths : one.values.length = 1 ∧ other.values.length = 2 := by decide
  rw [alike, lengths.2] at lengths
  exact absurd lengths.1 (by decide)

/- With the sign in a key, two lists have one text. -/
example : bracedText [("a=\"x\" b", "y")] = bracedText [("a", "x"), ("b", "y")] := by decide

end Record

end LeveledLogging
