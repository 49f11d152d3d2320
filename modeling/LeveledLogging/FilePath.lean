import LeveledLogging.Text.Pieces
/-!
File paths as text. The parts of a path stand between strokes; a part that is a single dot counts for
nothing behind the start, and neither does a stroke next to another one.
-/
namespace LeveledLogging.FilePath

def isAbsolute (path : String) : Bool := path.toList.head? = some '/'

def dropEmptyParts : List Char → List Char
  | [] => []
  | '/' :: rest => dropEmptyParts rest
  | ['.'] => []
  | '.' :: '/' :: rest => dropEmptyParts rest
  | rest => rest

def dropEmptyEnd (path : List Char) : List Char := (dropEmptyParts path.reverse).reverse

def join (base path : String) : String :=
  if isAbsolute path then path
  else if base = "" ∨ base.toList.getLast? = some '/' then base ++ path
  else base ++ "/" ++ path

def belowTilde (path : String) : Option String :=
  match path.toList with
  | ['~'] => some ""
  | '~' :: '/' :: rest => some (String.ofList (dropEmptyEnd (dropEmptyParts rest)))
  | _ => none

def expand (home : Option String) (path : String) : String :=
  match home, belowTilde path with
  | some home, some rest => join home rest
  | _, _ => path

def splitLast (path : List Char) : List Char × List Char :=
  let fromEnd := path.reverse
  (fromEnd.dropWhile (· ≠ '/') |>.reverse, fromEnd.takeWhile (· ≠ '/') |>.reverse)

def parent (path : String) : Option String :=
  let absolute := isAbsolute path
  let body := dropEmptyEnd path.toList
  -- a leading dot is a part of its own
  let body := if body = [] ∧ path.toList.head? = some '.' then ['.'] else body
  if body = [] then none
  else
    let before := dropEmptyEnd (splitLast body).1
    if before = [] ∧ absolute then some "/"
    else if before = [] ∧ body ≠ ['.'] ∧ body.take 2 = ['.', '/'] then some "."
    else some (String.ofList before)

def lineage : Nat → String → List String
  | 0, _ => []
  | n + 1, path => path :: (parent path).elim [] (lineage n)

def ancestors (path : String) : List String := lineage (path.length + 1) path

def fileName (path : String) : Option String :=
  let last := (splitLast (dropEmptyEnd path.toList)).2
  if last = [] ∨ last = ['.'] ∨ last = ['.', '.'] then none else some (String.ofList last)

end LeveledLogging.FilePath
