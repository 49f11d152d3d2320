/-!
A place in a YAML text: what is left of it, and where that starts. Past the end every character reads
as the null character, which no YAML text holds.
-/
namespace LeveledLogging.Yaml

structure Cursor where
  rest : List Char
  -- Octets passed, each character counted as in UTF-8.
  index : Nat
  line : Nat
  column : Nat
  deriving DecidableEq, Repr

def endMark : Char := '\x00'

def isBreak (c : Char) : Bool :=
  c = '\n' || c = '\r' || c = '\u0085' || c = '\u2028' || c = '\u2029'

def isSpaceOrTab (c : Char) : Bool := c = ' ' || c = '\t'

def isBreakOrEnd (c : Char) : Bool := isBreak c || c = endMark

def isGapOrEnd (c : Char) : Bool := isSpaceOrTab c || isBreakOrEnd c

def isNameChar (c : Char) : Bool :=
  ('a' ≤ c && c ≤ 'z') || ('A' ≤ c && c ≤ 'Z') || ('0' ≤ c && c ≤ '9') || c = '_' || c = '-'

def isTextChar (c : Char) : Bool :=
  let n := c.toNat
  c = '\t' || c = '\n' || c = '\r' || (0x20 ≤ n && n ≤ 0x7E) || n = 0x85 ||
    (0xA0 ≤ n && n ≤ 0xD7FF) || (0xE000 ≤ n && n ≤ 0xFFFD) || 0x10000 ≤ n

namespace Cursor

def start (s : List Char) : Cursor := ⟨s, 0, 0, 0⟩

def peek (c : Cursor) (n : Nat) : Char := (c.rest.drop n).headD endMark

def next (c : Cursor) : Char := c.peek 0

def skip (c : Cursor) (n : Nat) : Cursor :=
  ⟨c.rest.drop n, (c.rest.take n).foldl (fun i x => i + x.utf8Size) c.index, c.line, c.column + n⟩

def span (p : Char → Bool) (c : Cursor) : List Char × Cursor :=
  let run := c.rest.takeWhile p
  (run, c.skip run.length)

def takeBreak (c : Cursor) : List Char × Cursor :=
  match c.rest with
  | '\r' :: '\n' :: rest => (['\n'], ⟨rest, c.index + 2, c.line + 1, 0⟩)
  | x :: rest =>
    if isBreak x then
      ([if x = '\u2028' || x = '\u2029' then x else '\n'],
        ⟨rest, c.index + x.utf8Size, c.line + 1, 0⟩)
    else ([], c)
  | [] => ([], c)

def skipLineEnd (c : Cursor) : Option Cursor :=
  let c := (c.span isSpaceOrTab).2
  let c := if c.next = '#' then (c.span fun x => !isBreakOrEnd x).2 else c
  if isBreakOrEnd c.next then some c.takeBreak.2 else none

def atDocumentMark (c : Cursor) (mark : Char) : Bool :=
  c.column = 0 && c.rest.take 3 = [mark, mark, mark] && isGapOrEnd (c.peek 3)

def atAnyDocumentMark (c : Cursor) : Bool := c.atDocumentMark '-' || c.atDocumentMark '.'

end Cursor

end LeveledLogging.Yaml
