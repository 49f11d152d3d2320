import LeveledLogging.Yaml.Token.Property
import LeveledLogging.Yaml.Token.ScalarText
/-!
The tokens of a YAML text, in order. A scalar, an anchor, a tag or a flow collection may turn out to
be a key only at the colon behind it, so the scanner remembers where such a key would start and puts
the tokens of the key there when the colon comes.
-/
namespace LeveledLogging.Yaml

structure PossibleKey where
  -- Nothing but a key can stand there.
  required : Bool
  -- The number of tokens in front of it.
  number : Nat
  start : Cursor

structure Scanner where
  cursor : Cursor
  tokens : List Token
  indent : Int
  outer : List Int
  keyAllowed : Bool
  /- What may be a key, for every flow collection that is open and for the block around them, the
  innermost first. -/
  keys : List (Option PossibleKey)

namespace Scanner

def start (s : List Char) : Scanner := ⟨.start s, [], -1, [], true, [none]⟩

def inFlow (s : Scanner) : Bool := 1 < s.keys.length

def longestKey : Nat := 1024

private def push (s : Scanner) (token : Token) : Scanner := { s with tokens := token :: s.tokens }

private def insert (s : Scanner) (number : Nat) (token : Token) : Scanner :=
  let after := s.tokens.length - number
  { s with tokens := s.tokens.take after ++ token :: s.tokens.drop after }

private def skipGap : Nat → Scanner → Scanner
  | 0, s => s
  | fuel + 1, s =>
    let c := s.cursor
    let c := if c.column = 0 && c.next = '\ufeff' then c.skip 1 else c
    let c := (c.span fun x => x = ' ' || ((s.inFlow || !s.keyAllowed) && x = '\t')).2
    let c := if c.next = '#' then (c.span fun x => !isBreakOrEnd x).2 else c
    if isBreak c.next then
      skipGap fuel { s with cursor := c.takeBreak.2, keyAllowed := s.keyAllowed || !s.inFlow }
    else { s with cursor := c }

private def dropStale (s : Scanner) : Option Scanner := do
  let keys ← s.keys.mapM fun
    | none => some none
    | some key =>
      if key.start.line < s.cursor.line || key.start.index + longestKey < s.cursor.index then
        if key.required then failure else some none
      else some (some key)
  return { s with keys }

private def dropKey (s : Scanner) : Option Scanner :=
  match s.keys with
  | some key :: rest => if key.required then none else some { s with keys := none :: rest }
  | _ => some s

private def saveKey (s : Scanner) : Option Scanner := do
  if !s.keyAllowed then return s
  let key : PossibleKey :=
    ⟨!s.inFlow && s.indent = s.cursor.column, s.tokens.length, s.cursor⟩
  return { (← s.dropKey) with keys := some key :: s.keys.drop 1 }

private def openBlock (s : Scanner) (column : Nat) (number : Option Nat) (token : Token) : Scanner :=
  if s.inFlow || (column : Int) ≤ s.indent then s
  else
    let s := { s with indent := column, outer := s.indent :: s.outer }
    match number with
    | some number => s.insert number token
    | none => s.push token

private def closeFrom (column : Int) : Int → List Int → Nat × Int × List Int
  | indent, [] => if column < indent then (1, -1, []) else (0, indent, [])
  | indent, next :: rest =>
    if column < indent then
      let (n, indent, rest) := closeFrom column next rest
      (n + 1, indent, rest)
    else (0, indent, next :: rest)

private def closeBlocks (s : Scanner) (column : Int) : Scanner :=
  if s.inFlow then s
  else
    let (n, indent, outer) := closeFrom column s.indent s.outer
    { s with indent, outer, tokens := List.replicate n .blockEnd ++ s.tokens }

private def finish (s : Scanner) : Option Scanner := (s.closeBlocks (-1)).dropKey

private def advance (s : Scanner) (n : Nat) : Scanner := { s with cursor := s.cursor.skip n }

private def allowKey (s : Scanner) (keyAllowed : Bool) : Scanner := { s with keyAllowed }

private def scanDocumentMark (s : Scanner) (token : Token) : Option Scanner := do
  let s ← s.finish
  return ((s.allowKey false).advance 3).push token

private def scanDirective (s : Scanner) : Option Scanner := do
  let s ← s.finish
  let (token, cursor) ← Token.readDirective s.cursor
  return { s.allowKey false with cursor }.push token

private def openFlow (s : Scanner) (token : Token) : Option Scanner := do
  let s ← s.saveKey
  return ({ s with keys := none :: s.keys, keyAllowed := true }.advance 1).push token

private def closeFlow (s : Scanner) (token : Token) : Option Scanner := do
  let s ← s.dropKey
  let keys := if s.inFlow then s.keys.drop 1 else s.keys
  return ({ s with keys, keyAllowed := false }.advance 1).push token

private def scanFlowEntry (s : Scanner) : Option Scanner := do
  let s ← s.dropKey
  return ((s.allowKey true).advance 1).push .flowEntry

private def scanBlockEntry (s : Scanner) : Option Scanner := do
  if !s.inFlow && !s.keyAllowed then failure
  let s ← (s.openBlock s.cursor.column none .blockSequenceStart).dropKey
  return ((s.allowKey true).advance 1).push .blockEntry

private def scanKey (s : Scanner) : Option Scanner := do
  if !s.inFlow && !s.keyAllowed then failure
  let s ← (s.openBlock s.cursor.column none .blockMappingStart).dropKey
  return ((s.allowKey !s.inFlow).advance 1).push .key

private def scanValue (s : Scanner) : Option Scanner :=
  match s.keys with
  | some key :: rest =>
    let s := (s.insert key.number .key).openBlock key.start.column (some key.number)
      .blockMappingStart
    some (({ s with keys := none :: rest, keyAllowed := false }.advance 1).push .value)
  | _ =>
    if !s.inFlow && !s.keyAllowed then none
    else
      let s := s.openBlock s.cursor.column none .blockMappingStart
      some (((s.allowKey !s.inFlow).advance 1).push .value)

private def take (s : Scanner) (read : Cursor → Option (Token × Cursor)) : Option Scanner := do
  let s ← s.saveKey
  let (token, cursor) ← read s.cursor
  return { s.allowKey false with cursor }.push token

private def scanPlain (s : Scanner) : Option Scanner := do
  let s ← s.saveKey
  let (token, crossed, cursor) ← Token.readPlain s.inFlow (s.indent + 1).toNat s.cursor
  return { s.allowKey crossed with cursor }.push token

private def scanBlockScalar (s : Scanner) (literal : Bool) : Option Scanner := do
  let s ← s.dropKey
  let (token, cursor) ← Token.readBlock literal s.indent s.cursor
  return { s.allowKey true with cursor }.push token

private def marks : List Char :=
  ['-', '?', ':', ',', '[', ']', '\x7b', '\x7d', '#', '&', '*', '!', '|', '>', '\'', '\x22', '%',
    '@', '\x60']

private def startsPlain (s : Scanner) : Bool :=
  let x := s.cursor.next
  let y := s.cursor.peek 1
  !(isGapOrEnd x || marks.contains x) || (x = '-' && !isSpaceOrTab y) ||
    (!s.inFlow && (x = '?' || x = ':') && !isGapOrEnd y)

private def scanToken (s : Scanner) : Option Scanner :=
  let c := s.cursor
  let apart := isGapOrEnd (c.peek 1)
  if c.column = 0 && c.next = '%' then s.scanDirective
  else if c.atDocumentMark '-' then s.scanDocumentMark .documentStart
  else if c.atDocumentMark '.' then s.scanDocumentMark .documentEnd
  else if c.next = '[' then s.openFlow .flowSequenceStart
  else if c.next = '\x7b' then s.openFlow .flowMappingStart
  else if c.next = ']' then s.closeFlow .flowSequenceEnd
  else if c.next = '\x7d' then s.closeFlow .flowMappingEnd
  else if c.next = ',' then s.scanFlowEntry
  else if c.next = '-' && apart then s.scanBlockEntry
  else if c.next = '?' && (s.inFlow || apart) then s.scanKey
  else if c.next = ':' && (s.inFlow || apart) then s.scanValue
  else if c.next = '*' then
    s.take fun c => do
      let (name, c) ← Token.readAnchorName c
      return (.reference name, c)
  else if c.next = '&' then
    s.take fun c => do
      let (name, c) ← Token.readAnchorName c
      return (.anchor name, c)
  else if c.next = '!' then s.take (Token.readTag s.inFlow)
  else if c.next = '|' && !s.inFlow then s.scanBlockScalar true
  else if c.next = '>' && !s.inFlow then s.scanBlockScalar false
  else if c.next = '\'' then s.take (Token.readQuoted true)
  else if c.next = '\x22' then s.take (Token.readQuoted false)
  else if s.startsPlain then s.scanPlain
  else none

private def scanAll : Nat → Scanner → Option Scanner
  | 0, _ => none
  | fuel + 1, s => do
    let s ← (s.skipGap (s.cursor.rest.length + 1)).dropStale
    let s := s.closeBlocks s.cursor.column
    if s.cursor.next = endMark then s.finish
    else scanAll fuel (← s.scanToken)

end Scanner

def Token.scan (s : String) : Option (List Token) := do
  if !s.toList.all isTextChar then failure
  let scanner ← Scanner.scanAll (s.length + 1) (Scanner.start s.toList)
  return scanner.tokens.reverse

end LeveledLogging.Yaml
