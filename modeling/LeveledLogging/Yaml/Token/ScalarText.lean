import LeveledLogging.Text.Integer
import LeveledLogging.Yaml.Cursor
import LeveledLogging.Yaml.Token
/-!
Reading of scalars. Line breaks within plain and quoted scalars and within folded blocks are folded:
a single one becomes a space, and of several all but the first remain.
-/
namespace LeveledLogging.Yaml

structure Gap where
  blanks : List Char
  crossed : Bool
  -- The first line break, unless that was escaped.
  first : List Char
  more : List Char
  deriving DecidableEq, Repr

namespace Gap

def none : Gap := ⟨[], false, [], []⟩

def escaped : Gap := ⟨[], true, [], []⟩

def folded (gap : Gap) : List Char :=
  if !gap.crossed then gap.blanks
  else if gap.first = ['\n'] then (if gap.more = [] then [' '] else gap.more)
  else gap.first ++ gap.more

private def readFrom (least : Nat) : Nat → Gap → Cursor → Option (Gap × Cursor)
  | 0, _, _ => failure
  | fuel + 1, gap, c =>
    if isSpaceOrTab c.next then
      if gap.crossed then
        if c.next = '\t' && c.column < least then failure
        else readFrom least fuel gap (c.skip 1)
      else readFrom least fuel { gap with blanks := gap.blanks ++ [c.next] } (c.skip 1)
    else if isBreak c.next then
      let (text, c) := c.takeBreak
      if gap.crossed then readFrom least fuel { gap with more := gap.more ++ text } c
      else readFrom least fuel ⟨[], true, text, []⟩ c
    else some (gap, c)

def read (least : Nat) (gap : Gap) (c : Cursor) : Option (Gap × Cursor) :=
  readFrom least (c.rest.length + 1) gap c

end Gap

/-! ## Plain scalars -/

private def flowMarks : List Char := [',', '[', ']', '\x7b', '\x7d']

private def plainRun (inFlow : Bool) : List Char → Option (List Char)
  | [] => some []
  | x :: rest =>
    let following := rest.headD endMark
    if isGapOrEnd x then some []
    else if inFlow && x = ':' && (following = '?' || flowMarks.contains following) then none
    else if (x = ':' && isGapOrEnd following) || (inFlow && flowMarks.contains x) then some []
    else (plainRun inFlow rest).map (x :: ·)

private def plainFrom (inFlow : Bool) (least : Nat) :
    Nat → List Char → Gap → Cursor → Option (List Char × Bool × Cursor)
  | 0, _, _, _ => none
  | fuel + 1, text, gap, c => do
    if c.atAnyDocumentMark || c.next = '#' then return (text, gap.crossed, c)
    let run ← plainRun inFlow c.rest
    let (text, crossed) :=
      if run = [] then (text, gap.crossed) else (text ++ gap.folded ++ run, false)
    let c := c.skip run.length
    if !(isSpaceOrTab c.next || isBreak c.next) then return (text, crossed, c)
    -- without a run the gap is still open
    let (gap, c) ← Gap.read least (if run = [] then gap else .none) c
    if !inFlow && c.column < least then return (text, gap.crossed, c)
    plainFrom inFlow least fuel text gap c

def Token.readPlain (inFlow : Bool) (least : Nat) (c : Cursor) : Option (Token × Bool × Cursor) := do
  let (text, crossed, c) ← plainFrom inFlow least (c.rest.length + 1) [] .none c
  return (.scalar .plain (String.ofList text), crossed, c)

/-! ## Quoted scalars -/

private def escapes : List (Char × Char) :=
  [('0', '\x00'), ('a', '\x07'), ('b', '\x08'), ('t', '\t'), ('\t', '\t'), ('n', '\n'),
    ('v', '\x0b'), ('f', '\x0c'), ('r', '\r'), ('e', '\x1b'), (' ', ' '), ('\x22', '\x22'),
    ('/', '/'), ('\\', '\\'), ('N', '\u0085'), ('_', '\u00a0'), ('L', '\u2028'), ('P', '\u2029')]

private def digitCount (c : Char) : Option Nat :=
  if c = 'x' then some 2 else if c = 'u' then some 4 else if c = 'U' then some 8 else none

private def readEscape (c : Cursor) : Option (Char × Cursor) := do
  match escapes.lookup (c.peek 1) with
  | some x => return (x, c.skip 2)
  | none =>
    let count ← digitCount (c.peek 1)
    let digits := (c.rest.drop 2).take count
    if digits.length ≠ count then failure
    let n ← Text.readDigits 16 digits
    if !n.isValidChar then failure
    return (Char.ofNat n, c.skip (2 + count))

private def quotedRun (single : Bool) :
    Nat → List Char → Cursor → Option (List Char × Bool × Cursor)
  | 0, _, _ => none
  | fuel + 1, text, c =>
    if isGapOrEnd c.next then some (text, false, c)
    else if single then
      if c.next ≠ '\'' then quotedRun single fuel (text ++ [c.next]) (c.skip 1)
      else if c.peek 1 = '\'' then quotedRun single fuel (text ++ ['\'']) (c.skip 2)
      else some (text, false, c)
    else if c.next = '\x22' then some (text, false, c)
    else if c.next = '\\' then
      if isBreak (c.peek 1) then some (text, true, (c.skip 1).takeBreak.2)
      else do
        let (x, c) ← readEscape c
        quotedRun single fuel (text ++ [x]) c
    else quotedRun single fuel (text ++ [c.next]) (c.skip 1)

private def quotedFrom (single : Bool) (mark : Char) :
    Nat → List Char → Cursor → Option (List Char × Cursor)
  | 0, _, _ => none
  | fuel + 1, text, c => do
    if c.atAnyDocumentMark || c.next = endMark then failure
    let (run, crossed, c) ← quotedRun single (c.rest.length + 1) [] c
    if c.next = mark then return (text ++ run, c.skip 1)
    let (gap, c) ← Gap.read 0 (if crossed then .escaped else .none) c
    quotedFrom single mark fuel (text ++ run ++ gap.folded) c

def Token.readQuoted (single : Bool) (c : Cursor) : Option (Token × Cursor) := do
  let (text, c) ←
    quotedFrom single (if single then '\'' else '\x22') (c.rest.length + 1) [] (c.skip 1)
  return (.scalar (if single then .singleQuoted else .doubleQuoted) (String.ofList text), c)

/-! ## Block scalars -/

inductive Chomping where
  | strip
  | clip
  | keep
  deriving DecidableEq, Repr

private def readChomping (c : Cursor) : Option (Chomping × Cursor) :=
  if c.next = '+' then some (.keep, c.skip 1)
  else if c.next = '-' then some (.strip, c.skip 1)
  else none

private def readIndentation (c : Cursor) : Option (Nat × Cursor) :=
  if !c.next.isDigit then some (0, c)
  else if c.next = '0' then none
  else some (c.next.toNat - '0'.toNat, c.skip 1)

private def readHeader (c : Cursor) : Option (Chomping × Nat × Cursor) := do
  match readChomping c with
  | some (chomping, c) =>
    let (indentation, c) ← readIndentation c
    return (chomping, indentation, c)
  | none =>
    let (indentation, c) ← readIndentation c
    if indentation = 0 then return (.clip, 0, c)
    let (chomping, c) := (readChomping c).getD (.clip, c)
    return (chomping, indentation, c)

/- Empty lines ahead and the indentation of the line after them, up to column `indent`, or any if
that is zero. Gives the breaks and the deepest column seen. -/
private def emptyLines (indent : Nat) :
    Nat → List Char → Nat → Cursor → Option (List Char × Nat × Cursor)
  | 0, _, _, _ => none
  | fuel + 1, breaks, deepest, c =>
    let spaces := (c.rest.takeWhile (· = ' ')).length
    let c := c.skip (if indent = 0 then spaces else min spaces (indent - c.column))
    let deepest := max deepest c.column
    if c.next = '\t' && (indent = 0 || c.column < indent) then none
    else if !isBreak c.next then some (breaks, deepest, c)
    else
      let (text, c) := c.takeBreak
      emptyLines indent fuel (breaks ++ text) deepest c

/- The lines of a block: `text` was read, `leading` is the break after it, `blank` tells whether
the line before that break starts with white space. -/
private def blockFrom (literal : Bool) (indent : Nat) :
    Nat → List Char → List Char → Bool → List Char → Cursor →
    Option (List Char × List Char × List Char × Cursor)
  | 0, _, _, _, _, _ => none
  | fuel + 1, text, leading, blank, trailing, c => do
    if c.column ≠ indent || c.next = endMark then return (text, leading, trailing, c)
    let starts := isSpaceOrTab c.next
    let join :=
      if !literal && leading = ['\n'] && !blank && !starts then
        (if trailing = [] then [' '] else [])
      else leading
    let (line, c) := c.span fun x => !isBreakOrEnd x
    let (next, c) := c.takeBreak
    let (more, _, c) ← emptyLines indent (c.rest.length + 1) [] 0 c
    blockFrom literal indent fuel (text ++ join ++ trailing ++ line) next starts more c

def Token.readBlock (literal : Bool) (parent : Int) (c : Cursor) : Option (Token × Cursor) := do
  let (chomping, indentation, c) ← readHeader (c.skip 1)
  let c ← c.skipLineEnd
  let asked := if indentation = 0 then 0 else (max parent 0).toNat + indentation
  let (trailing, deepest, c) ← emptyLines asked (c.rest.length + 1) [] 0 c
  let indent := if asked = 0 then max (max deepest (parent + 1).toNat) 1 else asked
  let (text, leading, trailing, c) ←
    blockFrom literal indent (c.rest.length + 1) [] [] false trailing c
  let ending := match chomping with
    | .strip => []
    | .clip => leading
    | .keep => leading ++ trailing
  return (.scalar (if literal then .literal else .folded) (String.ofList (text ++ ending)), c)

end LeveledLogging.Yaml
