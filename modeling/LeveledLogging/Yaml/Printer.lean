import LeveledLogging.Document
import LeveledLogging.Yaml.Cursor
import LeveledLogging.Yaml.Scalar
import LeveledLogging.Yaml.Token
/-!
YAML text of documents. Collections are blocks unless they are empty, and texts are plain unless
that would read as something else: then they are quoted, and texts of several lines become literal
blocks where a block can show them.
-/
namespace LeveledLogging.Yaml

def indentStep : Nat := 2

def longestSimpleKey : Nat := 128

def numberLayout : Decimal.Layout := ⟨some (-5), some 16, true, ".nan", ".inf"⟩

/-! ## Styles of scalars -/

def isPrintable (c : Char) : Bool :=
  let n := c.toNat
  c = '\n' || (0x20 ≤ n && n ≤ 0x7E) || (0xA0 ≤ n && n ≠ 0xFEFF && n ≠ 0xFFFE && n ≠ 0xFFFF)

private def openingMarks : List Char :=
  ['#', ',', '[', ']', '\x7b', '\x7d', '&', '*', '!', '|', '>', '\'', '\x22', '%', '@', '\x60']

private def openingMarksApart : List Char := ['?', ':', '-']

private def hasInnerMark : List Char → Bool
  | x :: y :: rest =>
    (y = ':' && isGapOrEnd (rest.headD endMark)) || (y = '#' && isGapOrEnd x) ||
      hasInnerMark (y :: rest)
  | _ => false

private def hasMark (s : List Char) : Bool :=
  s.take 3 = ['-', '-', '-'] || s.take 3 = ['.', '.', '.'] || hasInnerMark s ||
    match s with
    | [] => false
    | c :: rest =>
      openingMarks.contains c || (openingMarksApart.contains c && isGapOrEnd (rest.headD endMark))

private def hasPair (p q : Char → Bool) : List Char → Bool
  | x :: y :: rest => (p x && q y) || hasPair p q (y :: rest)
  | _ => false

private def isSpace (c : Char) : Bool := c = ' '

structure Showable where
  plain : Bool
  singleQuoted : Bool
  block : Bool
  deriving DecidableEq, Repr

private def showable (s : List Char) : Showable :=
  let edge (c : Char) : Bool := isSpace c || isBreak c
  let unshown := !s.all isPrintable || hasPair isSpace isBreak s
  let breakSpace := hasPair isBreak isSpace s
  { plain := !(s.head?.any edge || s.getLast?.any edge || breakSpace || unshown ||
      s.any isBreak || hasMark s)
    singleQuoted := !(breakSpace || unshown)
    block := !(s = [] || s.getLast?.any isSpace || unshown) }

private def readsAsText (s : String) : Bool :=
  match Scalar.resolve s with
  | .text _ => !Scalar.hasLeadingZero s.toList
  | _ => false

private def styleOf (simpleKey : Bool) (s : String) : ScalarStyle :=
  let chars := s.toList
  let can := showable chars
  let quoted := if can.singleQuoted then ScalarStyle.singleQuoted else .doubleQuoted
  if simpleKey && chars.any isBreak then .doubleQuoted
  else if chars.contains '\n' then (if can.block && !simpleKey then .literal else .doubleQuoted)
  else if readsAsText s && can.plain then .plain
  else quoted

/-! ## Writing -/

structure Pen where
  written : List Char
  column : Nat
  spaced : Bool
  -- The line holds nothing but indentation and marks of collections.
  fresh : Bool

namespace Pen

def start : Pen := ⟨[], 0, true, true⟩

private def put (pen : Pen) (c : Char) : Pen :=
  { pen with written := c :: pen.written, column := pen.column + 1 }

private def putAll (pen : Pen) (s : List Char) : Pen := s.foldl put pen

private def putBreak (pen : Pen) (c : Char) : Pen :=
  { pen with written := c :: pen.written, column := 0 }

private def space (pen : Pen) : Pen := if pen.spaced then pen else pen.put ' '

private def mark (pen : Pen) (c : Char) (apart spaced fresh : Bool) : Pen :=
  let pen := (if apart then pen.space else pen).put c
  { pen with spaced, fresh := pen.fresh && fresh }

private def indent (pen : Pen) (column : Nat) : Pen :=
  let pen :=
    if !pen.fresh || column < pen.column || (pen.column = column && !pen.spaced) then
      pen.putBreak '\n'
    else pen
  let pen := pen.putAll (List.replicate (column - pen.column) ' ')
  { pen with spaced := true, fresh := true }

private def closed (pen : Pen) : Pen := { pen with spaced := false, fresh := false }

private def plain (pen : Pen) (s : List Char) : Pen :=
  ((if s = [] then pen else pen.space).putAll s).closed

private def singleQuotedBody (column : Nat) (broken : Bool) : List Char → Pen → Pen
  | [], pen => if broken then pen.indent column else pen
  | c :: rest, pen =>
    if isBreak c then
      let pen := if c = '\n' && !broken then pen.putBreak '\n' else pen
      singleQuotedBody column true rest { pen.putBreak c with fresh := true }
    else
      let pen := if broken && c ≠ ' ' then pen.indent column else pen
      let pen := if c = '\'' then pen.put c else pen
      let pen := pen.put c
      if c = ' ' then singleQuotedBody column broken rest pen
      else singleQuotedBody column false rest { pen with fresh := false }

private def singleQuoted (pen : Pen) (column : Nat) (s : List Char) : Pen :=
  let pen := singleQuotedBody column false s (pen.mark '\'' true false false)
  (pen.mark '\'' false false false).closed

private def letters : List (Char × Char) :=
  [('\x00', '0'), ('\x07', 'a'), ('\x08', 'b'), ('\t', 't'), ('\n', 'n'), ('\x0b', 'v'),
    ('\x0c', 'f'), ('\r', 'r'), ('\x1b', 'e'), ('\x22', '\x22'), ('\\', '\\'), ('\u0085', 'N'),
    ('\u00a0', '_'), ('\u2028', 'L'), ('\u2029', 'P')]

private def digits (width : Nat) (c : Char) : List Char :=
  let ds := (Nat.toDigits 16 c.toNat).map Char.toUpper
  List.replicate (width - ds.length) '0' ++ ds

private def escape (c : Char) : List Char :=
  if isPrintable c && !isBreak c && c ≠ '\x22' && c ≠ '\\' then [c]
  else match letters.lookup c with
    | some letter => ['\\', letter]
    | none =>
      if c.toNat ≤ 0xFF then '\\' :: 'x' :: digits 2 c
      else if c.toNat ≤ 0xFFFF then '\\' :: 'u' :: digits 4 c
      else '\\' :: 'U' :: digits 8 c

private def doubleQuoted (pen : Pen) (s : List Char) : Pen :=
  let pen := (pen.mark '\x22' true false false).putAll (s.flatMap escape)
  (pen.mark '\x22' false false false).closed

/- What the header of a block says: its indentation if that cannot be seen from its first line, and
what becomes of the line breaks at its end. -/
private def hints (s : List Char) : List Char :=
  let indentation := if s.head?.any fun c => isSpace c || isBreak c then
    Nat.toDigits 10 indentStep else []
  let chomping := match s.reverse with
    | [] => ['-']
    | [c] => if isBreak c then ['+'] else ['-']
    | c :: d :: _ => if !isBreak c then ['-'] else if isBreak d then ['+'] else []
  indentation ++ chomping

private def literalBody (column : Nat) (broken : Bool) : List Char → Pen → Pen
  | [], pen => pen
  | c :: rest, pen =>
    if isBreak c then literalBody column true rest { pen.putBreak c with fresh := true }
    else
      let pen := if broken then pen.indent column else pen
      literalBody column false rest { pen.put c with fresh := false }

private def literal (pen : Pen) (column : Nat) (s : List Char) : Pen :=
  let pen := (hints s).foldl (fun pen c => pen.mark c false false false)
    (pen.mark '|' true false false)
  literalBody column true s { pen.putBreak '\n' with spaced := true, fresh := true }

private def text (pen : Pen) (column : Nat) (simpleKey : Bool) (s : String) : Pen :=
  match styleOf simpleKey s with
  | .plain => pen.plain s.toList
  | .singleQuoted => pen.singleQuoted column s.toList
  | .literal => pen.literal column s.toList
  | _ => pen.doubleQuoted s.toList

private def emptyCollection (pen : Pen) (left right : Char) : Pen :=
  (pen.mark left true true false).mark right false false false

private def below (outer : Option Nat) (top : Nat) : Nat :=
  match outer with
  | none => top
  | some column => column + indentStep

private def isSimpleKey (s : String) : Bool :=
  !s.toList.any isBreak && s.utf8ByteSize ≤ longestSimpleKey

private def key (pen : Pen) (column : Nat) (s : String) : Pen :=
  let inner := column + indentStep
  if isSimpleKey s then (pen.text inner true s).mark ':' false false false
  else (((pen.mark '?' true false true).text inner false s).indent column).mark ':' true false true

mutual

private def document (outer : Option Nat) (paired : Bool) : Document → Pen → Pen
  | .null, pen => pen.plain "null".toList
  | .boolean b, pen => pen.plain (boolWord b).toList
  | .integer n, pen => pen.plain (Text.integer n).toList
  | .float x, pen => pen.plain (x.text numberLayout).toList
  | .text s, pen => pen.text (below outer indentStep) false s
  | .list [], pen => pen.emptyCollection '[' ']'
  | .list (item :: items), pen =>
    let column := match outer with
      | some column => if paired && !pen.fresh then column else column + indentStep
      | none => 0
    entries column (item :: items) pen
  | .object [], pen => pen.emptyCollection '\x7b' '\x7d'
  | .object (member :: members), pen => pairs (below outer 0) (member :: members) pen

private def entries (column : Nat) : List Document → Pen → Pen
  | [], pen => pen
  | item :: items, pen =>
    entries column items
      (document (some column) false item ((pen.indent column).mark '-' true false true))

private def pairs (column : Nat) : List (String × Document) → Pen → Pen
  | [], pen => pen
  | (name, value) :: members, pen =>
    pairs column members
      (document (some column) true value ((pen.indent column).key column name))

end

end Pen

def print (document : Document) : String :=
  String.ofList ((Pen.document none false document .start).indent 0).written.reverse

end LeveledLogging.Yaml
