import LeveledLogging.Text.Integer
import LeveledLogging.Yaml.Cursor
import LeveledLogging.Yaml.Token
/-!
Reading of directives, anchors, aliases and tags.
-/
namespace LeveledLogging.Yaml

private def isHex (c : Char) : Bool := (Text.digitValue c).isSome

private def tagPunctuation : List Char :=
  [';', '/', '?', ':', '@', '&', '=', '+', '$', '.', '%', '!', '~', '*', '\'', '(', ')']

private def verbatimPunctuation : List Char := [',', '[', ']']

private def isTagChar (verbatim : Bool) (c : Char) : Bool :=
  isNameChar c || tagPunctuation.contains c || (verbatim && verbatimPunctuation.contains c)

private def octetCount (octet : Nat) : Option Nat :=
  if octet < 0x80 then some 1
  else if octet < 0xC0 then none
  else if octet < 0xE0 then some 2
  else if octet < 0xF0 then some 3
  else if octet < 0xF8 then some 4
  else none

/- The octets that characters and escapes spell. The first of a character decides how many there
are; `due` is the number of those still to come, and each of them has to be an escape. -/
private def unescape (due : Nat) : List Char → Option (List UInt8)
  | [] => if due = 0 then some [] else none
  | '%' :: a :: b :: rest => do
    if !isHex a || !isHex b then failure
    let octet ← Text.readDigits 16 [a, b]
    if due = 0 then
      let count ← octetCount octet
      return octet.toUInt8 :: (← unescape (count - 1) rest)
    else if octet / 64 = 2 then
      return octet.toUInt8 :: (← unescape (due - 1) rest)
    else failure
  | '%' :: _ => none
  | x :: rest => do
    if due = 0 then return Tag.octetsOf [x] ++ (← unescape 0 rest) else failure

private def tagOctets (verbatim : Bool) (c : Cursor) : Option (List UInt8 × Cursor) := do
  let (run, c) := c.span (isTagChar verbatim)
  return (← unescape 0 run, c)

private def tagHandle (c : Cursor) : Option (List Char × Cursor) := do
  if c.next ≠ '!' then failure
  let (name, c) := (c.skip 1).span isNameChar
  if c.next = '!' then return ('!' :: name ++ ['!'], c.skip 1)
  return ('!' :: name, c)

private def isNamedHandle (handle : List Char) : Bool :=
  1 < handle.length && handle.getLast? = some '!'

private def readTagBody (c : Cursor) : Option (Token × Cursor) := do
  if c.peek 1 = '<' then
    let (uri, c) ← tagOctets true (c.skip 2)
    if uri = [] || c.next ≠ '>' then failure
    return (.tag "" (.ofOctets uri), c.skip 1)
  let (handle, c) ← tagHandle c
  if isNamedHandle handle then
    let (suffix, c) ← tagOctets false c
    if suffix = [] then failure
    return (.tag (String.ofList handle) (.ofOctets suffix), c)
  let (more, c) ← tagOctets false c
  let suffix := Tag.ofOctets (Tag.octetsOf (handle.drop 1) ++ more)
  return (if suffix.octets = [] then .tag "" .bare else .tag "!" suffix, c)

def Token.readTag (inFlow : Bool) (c : Cursor) : Option (Token × Cursor) := do
  let (token, c) ← readTagBody c
  if isGapOrEnd c.next || (inFlow && c.next = ',') then return (token, c) else failure

def Token.readAnchorName (c : Cursor) : Option (String × Cursor) := do
  let (name, c) := (c.skip 1).span isNameChar
  let ends := isGapOrEnd c.next || ['?', ':', ',', ']', '\x7d', '%', '@', '\x60'].contains c.next
  if name = [] || !ends then failure
  return (String.ofList name, c)

private def versionNumber (c : Cursor) : Option (Nat × Cursor) := do
  let (digits, c) := c.span Char.isDigit
  if 9 < digits.length then failure
  return (← Text.readDigits 10 digits, c)

private def readVersion (c : Cursor) : Option (Token × Cursor) := do
  let (major, c) ← versionNumber c
  if c.next ≠ '.' then failure
  let (minor, c) ← versionNumber (c.skip 1)
  return (.version major minor, c)

private def readTagDirective (c : Cursor) : Option (Token × Cursor) := do
  let (handle, c) ← tagHandle c
  if handle ≠ ['!'] && !isNamedHandle handle then failure
  if !isSpaceOrTab c.next then failure
  let (uri, c) ← tagOctets true (c.span isSpaceOrTab).2
  if uri = [] || !isGapOrEnd c.next then failure
  return (.tagDirective (String.ofList handle) (.ofOctets uri), c)

def Token.readDirective (c : Cursor) : Option (Token × Cursor) := do
  let (name, c) := (c.skip 1).span isNameChar
  if !isGapOrEnd c.next then failure
  let body := (c.span isSpaceOrTab).2
  let (token, c) ←
    if name = ['Y', 'A', 'M', 'L'] then readVersion body
    else if name = ['T', 'A', 'G'] then readTagDirective body
    else none
  return (token, ← c.skipLineEnd)

end LeveledLogging.Yaml
