/-
**Reading YAML text.**

`read?` reads the one document of a text from its tokens: block sequences and mappings laid out by
indentation, sequences and mappings in brackets, and scalars. An alias stands for the node that was
last given its name; aliases that make more than a hundred times as many jumps as the document has
parts lead nowhere. A text of several documents is refused; one of none is an empty node.
-/

import DeviceMapping.Yaml.Node
import DeviceMapping.Yaml.Token

namespace DeviceMapping.Yaml

/-- How far a document is read: the tokens that are left, the nodes with names, the latest first,
each with the jumps inside it, what the handles of tags stand for, the jumps of the aliases so far,
and how many are allowed. -/
structure Reading where
  tokens : List Token
  anchors : List (String × Yaml × Nat)
  handles : List (String × String)
  jumps : Nat
  allowed : Nat

/-- A step of reading, which may be refused. -/
abbrev Read (α : Type) := StateT Reading Option α

/-- The next token. -/
def peek : Read (Option Token) := do
  let reading ← get
  return reading.tokens.head?

/-- Passes the next token by. -/
def advance : Read Unit :=
  modify fun reading => { reading with tokens := reading.tokens.drop 1 }

/-- The next token is one of these. -/
def nextIs (tokens : List Token) : Read Bool := do
  let token ← peek
  return token.any tokens.contains

/-- Passes a token by, if it comes next. -/
def take (token : Token) : Read Bool := do
  if ← nextIs [token] then
    advance
    return true
  else return false

/-! ### Properties of nodes -/

/-- The meaning of a tag: a handle must be known, a tag without one is its own meaning. -/
def resolveTag (handle suffix : String) : Read String := do
  let reading ← get
  match if handle.isEmpty then some "" else reading.handles.lookup handle with
  | some meaning => return meaning ++ suffix
  | none => failure

/-- The anchor that comes next, if one does. -/
def takeAnchor : Read (Option String) := do
  match ← peek with
  | some (.anchor name) =>
    advance
    return some name
  | _ => return none

/-- The tag that comes next, if one does. -/
def takeTag : Read (Option String) := do
  match ← peek with
  | some (.tag handle suffix) =>
    advance
    return some (← resolveTag handle suffix)
  | _ => return none

/-- The anchor and the tag before a node, in either order. -/
def takeProperties : Read (Option String × Option String) := do
  match ← takeAnchor with
  | some name => return (some name, ← takeTag)
  | none =>
    let tag ← takeTag
    return (← takeAnchor, tag)

/-- Gives a name to a node, which began after a number of jumps. -/
def name (anchor : Option String) (jumps : Nat) (node : Yaml) : Read Unit :=
  match anchor with
  | some name => modify fun reading =>
      { reading with anchors := (name, node, reading.jumps - jumps) :: reading.anchors }
  | none => pure ()

/-- The node of a name, reached by a jump. -/
def jump (name : String) : Read Yaml := do
  let reading ← get
  match reading.anchors.lookup name with
  | some (node, inside) =>
    let jumps := reading.jumps + 1 + inside
    set { reading with jumps := jumps }
    return if jumps ≤ reading.allowed then node else .endless
  | none => failure

/-! ### Nodes -/

mutual

/-- A node; blocks only where `block` says so, and a sequence of the same indentation as its key
where `indentless` does. The first argument bounds the steps. -/
def readNode : Nat → (block indentless : Bool) → Read Yaml
  | 0, _, _ => failure
  | steps + 1, block, indentless => do
    if let some (.alias name) ← peek then
      advance
      return ← jump name
    let (anchor, tag) ← takeProperties
    let jumps := (← get).jumps
    name anchor jumps .endless
    let node ← match ← peek with
      | some (.scalar text plain) =>
        advance
        pure (scalar text plain tag)
      | some .flowSequence =>
        advance
        let items ← readFlowItems steps true
        pure (sequence items tag)
      | some .flowMapping =>
        advance
        let members ← readFlowMembers steps true
        pure (mapping members tag)
      | token =>
        if indentless && token == some .dash then
          let items ← readItems steps false
          pure (sequence items tag)
        else if block && token == some .blockSequence then
          advance
          let items ← readItems steps true
          pure (sequence items tag)
        else if block && token == some .blockMapping then
          advance
          let members ← readMembers steps
          pure (mapping members tag)
        else if anchor.isSome || tag.isSome then pure (scalar "" true tag)
        else failure
    name anchor jumps node
    return node

/-- A node, or nothing before one of these tokens. -/
def readNodeBefore : Nat → (ends : List Token) → (block indentless : Bool) → Read Yaml
  | 0, _, _, _ => failure
  | steps + 1, ends, block, indentless => do
    if ← nextIs ends then return empty
    readNode steps block indentless

/-- The items of a block; one of its own indentation must be closed. -/
def readItems : Nat → (closed : Bool) → Read (List Yaml)
  | 0, _ => failure
  | steps + 1, closed => do
    if ← take .dash then
      let ends := if closed then [.dash, .blockEnd] else [.dash, .key, .value, .blockEnd]
      let item ← readNodeBefore steps ends true false
      let items ← readItems steps closed
      return item :: items
    else if closed then if ← take .blockEnd then return [] else failure
    else return []

/-- The members of a block. -/
def readMembers : Nat → Read (List (Yaml × Yaml))
  | 0 => failure
  | steps + 1 => do
    if ← take .key then
      let key ← readNodeBefore steps [.key, .value, .blockEnd] true true
      let value ← if ← take .value then readNodeBefore steps [.key, .value, .blockEnd] true true
        else pure empty
      let members ← readMembers steps
      return (key, value) :: members
    else if ← take .blockEnd then return []
    else failure

/-- The items up to the closing bracket; a key and its value make up a mapping of their own. -/
def readFlowItems : Nat → (first : Bool) → Read (List Yaml)
  | 0, _ => failure
  | steps + 1, first => do
    if ← take .flowSequenceEnd then return []
    if !first then
      if !(← take .comma) then failure
      if ← take .flowSequenceEnd then return []
    if ← take .key then
      let ends := [.comma, .flowSequenceEnd]
      let key ←
        if ← nextIs (.value :: ends) then
          advance
          pure empty
        else readNode steps false false
      let value ← if ← take .value then readNodeBefore steps ends false false else pure empty
      let items ← readFlowItems steps false
      return mapping [(key, value)] none :: items
    else
      let item ← readNode steps false false
      let items ← readFlowItems steps false
      return item :: items

/-- The members up to the closing brace; a key alone has nothing as its value. -/
def readFlowMembers : Nat → (first : Bool) → Read (List (Yaml × Yaml))
  | 0, _ => failure
  | steps + 1, first => do
    if ← take .flowMappingEnd then return []
    if !first then
      if !(← take .comma) then failure
      if ← take .flowMappingEnd then return []
    let ends := [.comma, .flowMappingEnd]
    if ← take .key then
      let key ← readNodeBefore steps (.value :: ends) false false
      let value ← if ← take .value then readNodeBefore steps ends false false else pure empty
      let members ← readFlowMembers steps false
      return (key, value) :: members
    else
      let key ← readNode steps false false
      let members ← readFlowMembers steps false
      return (key, empty) :: members

end

/-! ### Documents -/

/-- The handles that need no directive. -/
def usualHandles : List (String × String) := [("!", "!"), ("!!", coreTag "")]

/-- The directives before a document, given those before them: one version at most, which must be
known, and one meaning per handle. -/
def readDirectives : Nat → (versioned : Bool) → (handles : List (String × String)) → Read Unit
  | 0, _, _ => failure
  | steps + 1, versioned, handles => do
    match ← peek with
    | some (.version major minor) =>
      if versioned || major ≠ 1 || (minor ≠ 1 && minor ≠ 2) then failure
      advance
      readDirectives steps true handles
    | some (.tagHandle handle meaning) =>
      if (handles.lookup handle).isSome then failure
      advance
      readDirectives steps versioned ((handle, meaning) :: handles)
    | _ => modify fun reading => { reading with handles := handles ++ usualHandles }

/-- The node of the first document; without a marker before it a document must hold something. -/
def readDocument (steps : Nat) : Read Yaml := do
  match ← peek with
  | none => return empty
  | some (.version ..) | some (.tagHandle ..) | some .documentStart =>
    readDirectives steps false []
    if !(← take .documentStart) then failure
    match ← peek with
    | none | some (.version ..) | some (.tagHandle ..) | some .documentStart
    | some .documentEnd => return empty
    | _ => readNode steps true false
  | _ =>
    readDirectives steps false []
    readNode steps true false

/-- The character may stand in a text. -/
def isAllowed (c : Char) : Bool :=
  c == '\t' || c == '\n' || c == '\r' || c == '\x85' || (' ' ≤ c && c ≤ '~') ||
    ('\xa0' ≤ c && c ≤ '\ufffd') || '\uffff' < c

mutual

/-- The number of parts of a node: scalars, aliases, and both ends of sequences and mappings. -/
def parts : Yaml → Nat
  | .scalar .. | .endless => 1
  | .sequence items _ => 2 + itemParts items
  | .mapping members _ => 2 + memberParts members

/-- The number of parts of items. -/
def itemParts : List Yaml → Nat
  | [] => 0
  | item :: rest => parts item + itemParts rest

/-- The number of parts of members. -/
def memberParts : List (Yaml × Yaml) → Nat
  | [] => 0
  | (key, value) :: rest => parts key + parts value + memberParts rest

end

/-- The node of tokens that are one document, with a number of jumps allowed. -/
def ofTokens? (tokens : List Token) (allowed : Nat) : Option Yaml := do
  let start : Reading := ⟨tokens, [], usualHandles, 0, allowed⟩
  let (node, reading) ← (readDocument (2 * tokens.length + 3)).run start
  if reading.tokens.all (· == .documentEnd) then some node else none

/-- The node of a text that is one document. -/
def read? (text : String) : Option Yaml := do
  let characters := match text.toList with
    | '\ufeff' :: rest => rest
    | characters => characters
  if characters.all isAllowed then
    let tokens ← tokens? characters
    let unfollowed ← ofTokens? tokens 0
    ofTokens? tokens (100 * parts unfollowed)
  else none

/-- The node of a text that is one document, with the levels that it may have. -/
def readLimited? (text : String) : Option (Limited Yaml) :=
  (read? text).map (⟨·, nestingLimit⟩)

end DeviceMapping.Yaml
