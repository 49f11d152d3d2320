import LeveledLogging.Yaml.Token
import LeveledLogging.Yaml.Token.Scan
/-!
Nodes from tokens. A `Reader` takes tokens from the front of a list and keeps track of anchors: an
alias means the node to which its number belongs in the end, and an anchor gets the number of
distinct names before it.
-/
namespace LeveledLogging.Yaml

structure ReaderState where
  tokens : List Token
  handles : List (String × Tag)
  names : List (String × Nat)
  -- Anchored nodes: how many anchors come before it, its number, and the node.
  anchored : List (Nat × Nat × Node)
  events : Nat

abbrev Reader := StateT ReaderState Option

namespace Reader

def peek : Reader (Option Token) := do return (← get).tokens.head?

def skip : Reader Unit := modify fun s => { s with tokens := s.tokens.drop 1 }

def accept (token : Token) : Reader Bool := do
  if (← peek) = some token then
    skip
    return true
  else return false

def isNext (tokens : List Token) : Reader Bool := do
  return (← peek).any tokens.contains

def count (n : Nat) : Reader Unit := modify fun s => { s with events := s.events + n }

def absent : Reader Node := do
  count 1
  return .absent

private def number (name : String) : Reader (Nat × Nat) := do
  let s ← get
  let n := ((s.names.map Prod.fst).eraseDups).length
  set { s with names := (name, n) :: s.names }
  return (s.names.length, n)

private def keep (place : Option (Nat × Nat)) (node : Node) : Reader Node := do
  match place with
  | some (order, n) => modify fun s => { s with anchored := (order, n, node) :: s.anchored }
  | none => pure ()
  return node

private def wholeTag (handle : String) (suffix : Tag) : Reader Tag := do
  if handle = "" then return suffix
  match (← get).handles.lookup handle with
  | some start => return start.append suffix
  | none => failure

private def properties : Reader (Option String × Option Tag) := do
  let anchor ← readAnchor
  let tag ← readTag
  if anchor.isSome then return (anchor, tag)
  else if tag.isSome then return (← readAnchor, tag)
  else return (none, none)
where
  readAnchor : Reader (Option String) := do
    match ← peek with
    | some (.anchor name) =>
      skip
      return some name
    | _ => return none
  readTag : Reader (Option Tag) := do
    match ← peek with
    | some (.tag handle suffix) =>
      skip
      return some (← wholeTag handle suffix)
    | _ => return none

/- Whether a node may be a block, and whether the entries of a sequence may stand where its parent
stands. -/
structure Setting where
  block : Bool
  flush : Bool

private def inBlock : Setting := ⟨true, false⟩
private def inBlockMapping : Setting := ⟨true, true⟩
private def inFlow : Setting := ⟨false, false⟩

mutual

private def node : Nat → Setting → Reader Node
  | 0, _ => failure
  | fuel + 1, setting => do
    match ← peek with
    | some (.reference name) =>
      skip
      count 1
      return .reference (← (← get).names.lookup name)
    | _ =>
      let (anchor, tag) ← properties
      let n ← anchor.mapM number
      match ← peek with
      | some (.scalar style text) =>
        skip
        count 1
        keep n (.scalar tag style text)
      | some .blockEntry =>
        if setting.flush then
          count 2
          keep n (.sequence tag (← flushEntries fuel))
        else missing n anchor tag
      | some .blockSequenceStart =>
        if setting.block then
          skip
          count 2
          keep n (.sequence tag (← blockEntries fuel))
        else missing n anchor tag
      | some .blockMappingStart =>
        if setting.block then
          skip
          count 2
          keep n (.mapping tag (← blockPairs fuel))
        else missing n anchor tag
      | some .flowSequenceStart =>
        skip
        count 2
        keep n (.sequence tag (← flowEntries fuel true))
      | some .flowMappingStart =>
        skip
        count 2
        keep n (.mapping tag (← flowPairs fuel true))
      | _ => missing n anchor tag

private def missing (n : Option (Nat × Nat)) (anchor : Option String) (tag : Option Tag) :
    Reader Node := do
  if anchor.isNone && tag.isNone then failure
  count 1
  keep n (.scalar tag .plain "")

private def nodeUnless : Nat → List Token → Setting → Reader Node
  | 0, _, _ => failure
  | fuel + 1, tokens, setting => do
    if ← isNext tokens then absent else node fuel setting

private def blockEntries : Nat → Reader (List Node)
  | 0 => failure
  | fuel + 1 => do
    if ← accept .blockEntry then
      let item ← nodeUnless fuel [.blockEntry, .blockEnd] inBlock
      return item :: (← blockEntries fuel)
    if ← accept .blockEnd then return []
    failure

private def flushEntries : Nat → Reader (List Node)
  | 0 => failure
  | fuel + 1 => do
    if ← accept .blockEntry then
      let item ← nodeUnless fuel [.blockEntry, .key, .value, .blockEnd] inBlock
      return item :: (← flushEntries fuel)
    return []

private def blockPairs : Nat → Reader (List (Node × Node))
  | 0 => failure
  | fuel + 1 => do
    if ← accept .key then
      let key ← nodeUnless fuel [.key, .value, .blockEnd] inBlockMapping
      let value ← blockValue fuel
      return (key, value) :: (← blockPairs fuel)
    if ← accept .blockEnd then return []
    failure

private def blockValue : Nat → Reader Node
  | 0 => failure
  | fuel + 1 => do
    if ← accept .value then nodeUnless fuel [.key, .value, .blockEnd] inBlockMapping else absent

private def flowEntries : Nat → Bool → Reader (List Node)
  | 0, _ => failure
  | fuel + 1, first => do
    if ← accept .flowSequenceEnd then return []
    if !first && !(← accept .flowEntry) then failure
    if ← accept .key then
      count 2
      let pair ← singlePair fuel
      return .mapping none [pair] :: (← flowEntries fuel false)
    if ← accept .flowSequenceEnd then return []
    let item ← node fuel inFlow
    return item :: (← flowEntries fuel false)

/- One pair in a flow sequence. A key that is absent takes the token after it along. -/
private def singlePair : Nat → Reader (Node × Node)
  | 0 => failure
  | fuel + 1 => do
    let key ←
      if ← isNext [.value, .flowEntry, .flowSequenceEnd] then
        skip
        absent
      else node fuel inFlow
    let value ← flowValue fuel .flowSequenceEnd
    return (key, value)

private def flowValue : Nat → Token → Reader Node
  | 0, _ => failure
  | fuel + 1, closing => do
    if ← accept .value then nodeUnless fuel [.flowEntry, closing] inFlow else absent

private def flowPairs : Nat → Bool → Reader (List (Node × Node))
  | 0, _ => failure
  | fuel + 1, first => do
    if ← accept .flowMappingEnd then return []
    if !first && !(← accept .flowEntry) then failure
    if ← accept .key then
      let key ← nodeUnless fuel [.value, .flowEntry, .flowMappingEnd] inFlow
      let value ← flowValue fuel .flowMappingEnd
      return (key, value) :: (← flowPairs fuel false)
    if ← accept .flowMappingEnd then return []
    let key ← node fuel inFlow
    let value ← absent
    return (key, value) :: (← flowPairs fuel false)

end

private def standardHandles : List (String × Tag) := [("!", .bare), ("!!", .standard "")]

private def directives : Nat → Bool → List (String × Tag) → Reader (List (String × Tag))
  | 0, _, _ => failure
  | fuel + 1, versioned, handles => do
    match ← peek with
    | some (.version major minor) =>
      if versioned || major ≠ 1 || (minor ≠ 1 && minor ≠ 2) then failure
      skip
      directives fuel true handles
    | some (.tagDirective handle start) =>
      if (handles.lookup handle).isSome then failure
      skip
      directives fuel versioned ((handle, start) :: handles)
    | _ => return handles

private def skipDocumentEnds : Nat → Reader Unit
  | 0 => pure ()
  | fuel + 1 => do
    if ← accept .documentEnd then skipDocumentEnds fuel

private def content (fuel : Nat) : Reader Node := do
  match ← peek with
  | none | some (.version ..) | some (.tagDirective ..) | some .documentStart
  | some .documentEnd => absent
  | _ => node fuel inBlock

private def document (fuel : Nat) : Reader Node := do
  match ← peek with
  | some (.version ..) | some (.tagDirective ..) | some .documentStart =>
    let handles ← directives fuel false []
    modify fun s => { s with handles := handles ++ standardHandles }
    if !(← accept .documentStart) then failure
    content fuel
  | _ => node fuel inBlock

private def stream (fuel : Nat) : Reader Stream := do
  if (← peek).isNone then return .empty
  let root ← document fuel
  skipDocumentEnds fuel
  if (← peek).isSome then failure
  let s ← get
  let anchored := s.anchored.mergeSort fun a b => b.1 ≤ a.1
  return .document ⟨root, anchored.map Prod.snd, s.events⟩

end Reader

def Stream.read (s : String) : Option Stream := do
  let tokens ← Token.scan s
  let fuel := 3 * tokens.length + 3
  return (← (Reader.stream fuel).run ⟨tokens, Reader.standardHandles, [], [], 0⟩).1

end LeveledLogging.Yaml
