import LeveledLogging.Proofs.Loading
/-! Paths below the home directory. A path is told apart by its parts: the root, and what stands between
strokes. Only a first part that is a tilde is replaced, by the parts of the home directory
(`expandTilde`), and what comes of that begins at the root, so that it is not replaced again. A path may
be expanded more than once on its way to a file (`expandAgain`). -/
namespace LeveledLogging

namespace Text

theorem reverseJoinChars (c : Char) (ps : List (List Char)) :
    (joinChars c ps).reverse = joinChars c (ps.map List.reverse).reverse := by
  induction ps with
  | nil => rfl
  | cons p rest ih =>
    by_cases last : rest = []
    · rw [last]
      rfl
    · rw [joinCharsCons last, List.map_cons, List.reverse_cons,
        joinCharsAppend (by simpa using last) (by simp), ← ih, joinChars]
      simp

theorem splitCharsReverse (c : Char) (s : List Char) :
    splitChars c s.reverse = ((splitChars c s).map List.reverse).reverse := by
  have pieces : ((splitChars c s).map List.reverse).reverse ≠ [] := by
    simpa using splitCharsNonempty c s
  have free : ∀ p ∈ ((splitChars c s).map List.reverse).reverse, c ∉ p := by
    intro p inside
    obtain ⟨q, there, rfl⟩ := List.mem_map.mp (List.mem_reverse.mp inside)
    simpa using splitCharsFree there
  rw [← splitJoinChars pieces free, ← reverseJoinChars, joinSplitChars]

end Text

namespace FilePath

open Text

def counts (part : List Char) : Bool := part ≠ [] ∧ part ≠ ['.']

def inner (path : List Char) : List (List Char) := (splitChars '/' path).filter counts

/- The parts of a path. The root is a part of its own, and a dot is one only at the beginning. -/
def parts (path : String) : List String :=
  if isAbsolute path then "/" :: (inner path.toList).map String.ofList
  else match splitChars '/' path.toList with
    | [] => []
    | first :: rest =>
      ((if first = [] then [] else [first]) ++ rest.filter counts).map String.ofList

theorem innerAppend (front back : List Char) :
    inner (front ++ '/' :: back) = inner front ++ inner back := by
  rw [inner, splitCharsAppend, List.filter_append]
  rfl

theorem innerNothing : inner [] = [] := rfl

theorem innerReverse (path : List Char) :
    inner path.reverse = ((inner path).map List.reverse).reverse := by
  have same : counts ∘ List.reverse = counts := by
    funext part
    simp [counts, List.reverse_eq_iff]
  rw [inner, splitCharsReverse, List.filter_reverse, List.filter_map, same]
  rfl

theorem innerDropStart (path : List Char) : inner (dropEmptyParts path) = inner path := by
  fun_induction dropEmptyParts path with
  | case1 => rfl
  | case2 rest ih => rw [ih]; exact (innerAppend [] rest).symm
  | case3 => rfl
  | case4 rest ih => rw [ih]; exact (innerAppend ['.'] rest).symm
  | case5 => rfl

theorem innerDropEnd (path : List Char) : inner (dropEmptyEnd path) = inner path := by
  rw [dropEmptyEnd, innerReverse, innerDropStart, ← innerReverse, List.reverse_reverse]

theorem dropStartSuffix (path : List Char) : dropEmptyParts path <:+ path := by
  fun_induction dropEmptyParts path with
  | case1 => exact List.suffix_rfl
  | case2 rest ih => exact ih.trans (List.suffix_cons _ _)
  | case3 => exact List.nil_suffix
  | case4 rest ih => exact ih.trans ((List.suffix_cons _ _).trans (List.suffix_cons _ _))
  | case5 => exact List.suffix_rfl

theorem dropEndPrefix (path : List Char) : dropEmptyEnd path <+: path := by
  rw [dropEmptyEnd, ← List.reverse_suffix, List.reverse_reverse]
  exact dropStartSuffix path.reverse

theorem dropStartRelative (path : List Char) : (dropEmptyParts path).head? ≠ some '/' := by
  fun_induction dropEmptyParts path with
  | case1 => simp
  | case2 rest ih => exact ih
  | case3 => simp
  | case4 rest ih => exact ih
  | case5 path _ noStroke _ _ =>
    intro stroke
    obtain ⟨rest, rfl⟩ := List.head?_eq_some_iff.mp stroke
    exact noStroke rest rfl

theorem belowRelative (path : List Char) :
    isAbsolute (String.ofList (dropEmptyEnd (dropEmptyParts path))) = false := by
  have within := dropEndPrefix (dropEmptyParts path)
  rw [isAbsolute, String.toList_ofList, decide_eq_false_iff_not]
  intro stroke
  obtain ⟨rest, same⟩ := List.head?_eq_some_iff.mp stroke
  rw [same] at within
  obtain ⟨more, whole⟩ := within
  exact dropStartRelative path (by rw [← whole]; rfl)

theorem joinAbsolute {base : String} (absolute : isAbsolute base = true) (path : String) :
    isAbsolute (join base path) = true := by
  have start : base.toList.head? = some '/' := of_decide_eq_true absolute
  have extended : ∀ more, isAbsolute (base ++ more) = true := by
    intro more
    rw [isAbsolute, String.toList_append, List.head?_append, start]
    rfl
  unfold join
  split
  · assumption
  · split
    · exact extended path
    · rw [String.append_assoc]
      exact extended _

theorem belowParts {path rest : String} (below : belowTilde path = some rest) :
    isAbsolute path = false ∧ isAbsolute rest = false ∧
      parts path = "~" :: (inner rest.toList).map String.ofList := by
  unfold belowTilde at below
  split at below
  · rename_i alone
    cases below
    have relative : isAbsolute path = false := by simp [isAbsolute, alone]
    refine ⟨relative, rfl, ?_⟩
    simp [parts, relative, alone, splitChars, innerNothing]
  · rename_i more named
    cases below
    have relative : isAbsolute path = false := by simp [isAbsolute, named]
    have pieces : splitChars '/' ('~' :: '/' :: more) = ['~'] :: splitChars '/' more := rfl
    refine ⟨relative, belowRelative more, ?_⟩
    rw [String.toList_ofList, innerDropEnd, innerDropStart]
    simp [parts, relative, named, pieces, inner]
  · cases below

theorem belowTildeSome {path : String} (first : (parts path).head? = some "~") :
    ∃ rest, belowTilde path = some rest := by
  unfold parts at first
  split at first
  · simp at first
  · rename_i relative
    have whole := joinSplitChars '/' path.toList
    split at first
    · simp at first
    · rename_i piece rest pieces
      rw [pieces] at whole
      have visible : piece ≠ [] := by
        rintro rfl
        cases rest with
        | nil => simp at first
        | cons next others =>
          have stroke : path.toList.head? = some '/' := by
            rw [← whole]
            rfl
          exact relative (decide_eq_true stroke)
      have tilde : piece = ['~'] := by
        have read : String.ofList piece = "~" := by simpa [visible] using first
        rw [← String.toList_ofList (l := piece), read]
        rfl
      subst tilde
      cases rest with
      | nil =>
        have alone : path.toList = ['~'] := whole.symm
        exact ⟨"", by rw [belowTilde, alone]; rfl⟩
      | cons next others =>
        have named : path.toList = '~' :: '/' :: joinChars '/' (next :: others) := whole.symm
        exact ⟨_, by rw [belowTilde, named]; rfl⟩

theorem partsAbsolute {path : String} (absolute : isAbsolute path = true) :
    parts path = "/" :: (inner path.toList).map String.ofList := by
  rw [parts, if_pos absolute]

theorem partsJoin {base rest : String} (absolute : isAbsolute base = true)
    (relative : isAbsolute rest = false) :
    parts (join base rest) = parts base ++ (inner rest.toList).map String.ofList := by
  have joined : inner (join base rest).toList = inner base.toList ++ inner rest.toList := by
    unfold join
    rw [if_neg (by simp [relative])]
    split
    · rename_i closed
      rcases closed with rfl | closed
      · contradiction
      · obtain ⟨front, same⟩ := List.getLast?_eq_some_iff.mp closed
        rw [String.toList_append, same, List.append_assoc]
        change inner (front ++ '/' :: rest.toList) = inner (front ++ '/' :: []) ++ inner rest.toList
        rw [innerAppend, innerAppend, innerNothing, List.append_nil]
    · have stroke : (base ++ "/" ++ rest).toList = base.toList ++ '/' :: rest.toList := by simp
      rw [stroke, innerAppend]
  rw [partsAbsolute (joinAbsolute absolute rest), partsAbsolute absolute, joined, List.map_append]
  rfl

theorem expandOther {path : String} (first : (parts path).head? ≠ some "~") (home : Option String) :
    expand home path = path := by
  have nothing : belowTilde path = none := by
    cases below : belowTilde path with
    | none => rfl
    | some rest => exact absurd (by rw [(belowParts below).2.2]; rfl) first
  cases home <;> simp only [expand, nothing]

theorem expandTilde {base path : String} (absolute : isAbsolute base = true)
    (first : (parts path).head? = some "~") :
    isAbsolute path = false ∧ isAbsolute (expand (some base) path) = true ∧
      parts (expand (some base) path) = parts base ++ (parts path).tail := by
  obtain ⟨rest, below⟩ := belowTildeSome first
  obtain ⟨relative, inside, divided⟩ := belowParts below
  have expanded : expand (some base) path = join base rest := by simp only [expand, below]
  rw [expanded, divided]
  exact ⟨relative, joinAbsolute absolute rest, partsJoin absolute inside⟩

theorem expandChanges {home : Option String} (absolute : ∀ base ∈ home, isAbsolute base = true)
    (path : String) :
    expand home path ≠ path ↔ home.isSome = true ∧ (parts path).head? = some "~" := by
  by_cases first : (parts path).head? = some "~"
  · cases home with
    | none => simp [expand]
    | some base =>
      obtain ⟨relative, rooted, _⟩ := expandTilde (absolute base rfl) first
      refine iff_of_true ?_ ⟨rfl, first⟩
      intro same
      rw [same, relative] at rooted
      contradiction
  · exact iff_of_false (fun changed => changed (expandOther first home)) fun both => first both.2

theorem expandAgain {home : Option String} (absolute : ∀ base ∈ home, isAbsolute base = true)
    (path : String) : expand home (expand home path) = expand home path := by
  cases home with
  | none => rfl
  | some base =>
    by_cases first : (parts path).head? = some "~"
    · have rooted := (expandTilde (absolute base rfl) first).2.1
      refine expandOther ?_ _
      rw [partsAbsolute rooted]
      simp
    · rw [expandOther first, expandOther first]

end FilePath

namespace Config

def settingsAt (home : Option String) (files : FileSystem) (path : String)
    (entries : List (String × String)) : Except LogError Settings :=
  if files.contains path then
    match readDocument files path with
    | .error fault => .error (.config (.unreadable path fault))
    | .ok document => do
      let loaded := if document.isNull then none else some document
      let config ← { empty with loaded, file := some path }.withEnvironment entries
      config.settings home
  else .error (.config (.missingFile path))

theorem loadSettingsTested {home : Option String}
    (absolute : ∀ base ∈ home, FilePath.isAbsolute base = true) (files : FileSystem) (path : String)
    (entries : List (String × String)) :
    loadSettings home files (some path) entries =
      settingsAt home files (FilePath.expand home path) entries := by
  have again := FilePath.expandAgain absolute path
  rw [loadSettingsStages, settingsAt]
  cases there : files.contains (FilePath.expand home path) with
  | false => simp [ofFile, there, bind, Except.bind]
  | true =>
    simp only [ofFile, there, load, again]
    cases readDocument files (FilePath.expand home path) with
    | error fault => rfl
    | ok document => rfl

theorem expansionSettled {home : Option String}
    (absolute : ∀ base ∈ home, FilePath.isAbsolute base = true) (path : String) :
    let expanded := FilePath.expand home path
    FilePath.expand home expanded = expanded ∧
    (expanded ≠ path ↔ home.isSome = true ∧ (FilePath.parts path).head? = some "~") ∧
    (∀ base ∈ home, (FilePath.parts path).head? = some "~" → FilePath.isAbsolute expanded = true ∧
      FilePath.parts expanded = FilePath.parts base ++ (FilePath.parts path).tail) ∧
    ∀ files entries,
      loadSettings home files (some path) entries = settingsAt home files expanded entries := by
  refine ⟨FilePath.expandAgain absolute path, FilePath.expandChanges absolute path, ?_, ?_⟩
  · rintro base known first
    cases known
    exact (FilePath.expandTilde (absolute base rfl) first).2
  · intro files entries
    exact loadSettingsTested absolute files path entries

theorem tildeAmongStrokes :
    let home := some "/home/me/"
    let expanded := FilePath.expand home "~//a/./~/"
    let files : FileSystem :=
      ⟨[(["home"], .directory), (["home", "me"], .directory), (["home", "me", "a"], .directory),
        (["home", "me", "a", "~"], .file "log: {verbosity: 1}".toUTF8)], []⟩
    (∀ base ∈ home, FilePath.isAbsolute base = true) ∧ expanded = "/home/me/a/./~" ∧
      FilePath.parts expanded = ["/", "home", "me", "a", "~"] ∧
      FilePath.expand home expanded = expanded ∧
      loadSettings home files (some "~//a/./~/") [] = .ok { Settings.standard with verbosity := 1 } := by
  intro home expanded files
  have absolute : ∀ base ∈ home, FilePath.isAbsolute base = true := by
    intro base known
    cases Option.some.inj known
    decide
  obtain ⟨again, _, replaced, loads⟩ := expansionSettled absolute "~//a/./~/"
  refine ⟨absolute, by decide, (replaced _ rfl (by decide)).2.trans (by decide), again, ?_⟩
  rw [loads]
  decide +kernel

end Config

end LeveledLogging
