/-
Module: SqlLineage.Yaml.Parser
Purpose: The document that tokens spell. A text holds one document, which may be empty.
Main exports: node, document, parse?
-/
import SqlLineage.Yaml.Outline

namespace SqlLineage.Yaml

/-- How far the tokens have been taken, and what they have told so far. -/
structure Progress where
  tokens : List Token
  /-- The names of anchors with their numbers, the latest first. -/
  names : List (String × Nat) := []
  anchors : List Anchor := []
  nodes : List (Nat × Node) := []
  /-- The handles of tags with what they stand for, the latest first. -/
  handles : List (String × String) := []
deriving Inhabited

/-- A step of building a document. All that can go wrong makes it invalid. -/
abbrev Builder := StateT Progress Option

/-- The token that comes next. -/
def next? : Builder (Option Token) := do pure (← get).tokens.head?

/-- Takes the token that comes next. -/
def skipToken : Builder Unit := modify fun s => { s with tokens := s.tokens.tail }

/-- Takes the token that comes next if it is this one. -/
def took (token : Token) : Builder Bool := do
  if (← next?) == some token then
    skipToken
    pure true
  else
    pure false

/-- Whether one of these tokens comes next. -/
def stands (tokens : List Token) : Builder Bool := do
  pure ((← next?).any (tokens.contains ·))

/-! ### What stands in front of a node -/

/-- The number for an anchor of this name: how many other names are in use before it. A name that is
given once more takes up a number that the next new name has too. -/
def numberAnchor (name : String) : Builder Anchor := do
  let s ← get
  let anchor : Anchor :=
    { number := (s.names.map (·.1)).eraseDups.length
      place := s.tokens.length }
  set { s with
    names := (name, anchor.number) :: s.names
    anchors := anchor :: s.anchors }
  pure anchor

/-- Takes an anchor, if there is one. -/
def anchorName? : Builder (Option String) := do
  match (← next?) with
  | some (.anchor name) =>
    skipToken
    pure (some name)
  | _ => pure none

/-- Takes a tag, if there is one, and gives it in full. -/
def tag? : Builder (Option String) := do
  match (← next?) with
  | some (.tag handle suffix) =>
    skipToken
    if handle.isEmpty then pure (some suffix)
    else
      let expansion ← StateT.lift ((← get).handles.lookup handle)
      pure (some (expansion ++ suffix))
  | _ => pure none

/-- What stands in front of a node. -/
structure Properties where
  anchor : Option Anchor := none
  tag : Option String := none
deriving Repr, Inhabited

def Properties.isEmpty (properties : Properties) : Bool :=
  properties.anchor.isNone && properties.tag.isNone

/-- Takes an anchor and a tag, in either order. -/
def properties : Builder Properties := do
  let first ← anchorName?
  let tag ← tag?
  let name ← if first.isSome then pure first else anchorName?
  let anchor ← name.mapM numberAnchor
  pure { anchor, tag }

/-- The node, which references to the anchor from now on stand for. -/
def anchored (properties : Properties) (node : Node) : Builder Node := do
  if let some anchor := properties.anchor then
    modify fun s => { s with nodes := (anchor.place, node) :: s.nodes }
  pure node

/-- The tag that says nothing about a scalar. -/
def Properties.scalarTag (properties : Properties) : Option String :=
  properties.tag.filter (· != "!")

/-! ### Nodes -/

/-- Which collections a node may be that begins in front of a token. -/
inductive Surroundings where
  /-- Inside brackets a node is a flow collection or a scalar. -/
  | flow
  | block
  /-- In a block mapping the items of a sequence may stand in the column of the keys. -/
  | blockEntry
deriving Repr, Inhabited, DecidableEq

mutual

/-- The node that comes next. The first argument bounds the number of nested steps. -/
def node : Nat → Surroundings → Builder Node
  | 0, _ => failure
  | fuel + 1, surroundings => do
    if let some (.reference name) ← next? then
      skipToken
      return .reference (← StateT.lift ((← get).names.lookup name))
    let found ← properties
    let content ←
      match (← next?) with
      | some (.scalar text style) =>
        skipToken
        pure (.scalar { text, style, tag := found.scalarTag })
      | some .openSequence =>
        skipToken
        pure (.sequence (← flowItems fuel true []))
      | some .openMapping =>
        skipToken
        pure (.mapping (← flowEntries fuel true []))
      | some .item =>
        if surroundings == .blockEntry then pure (.sequence (← outdentedItems fuel []))
        else emptyNode found
      | some .blockSequence =>
        if surroundings == .flow then emptyNode found
        else
          skipToken
          pure (.sequence (← blockItems fuel []))
      | some .blockMapping =>
        if surroundings == .flow then emptyNode found
        else
          skipToken
          pure (.mapping (← blockEntries fuel []))
      | _ => emptyNode found
    anchored found content

/-- What stands for nothing after an anchor or a tag. -/
def emptyNode (found : Properties) : Builder Node := do
  if found.isEmpty then failure
  pure (.scalar { tag := found.scalarTag })

/-- The node that comes next, or a missing one in front of these tokens. -/
def nodeBefore : Nat → Surroundings → List Token → Builder Node
  | 0, _, _ => failure
  | fuel + 1, surroundings, ends => do
    if ← stands ends then pure .missing else node fuel surroundings

/-- The items of a block sequence. -/
def blockItems : Nat → List Node → Builder (List Node)
  | 0, _ => failure
  | fuel + 1, items => do
    if ← took .blockEnd then return items.reverse
    if !(← took .item) then failure
    let item ← nodeBefore fuel .block [.item, .blockEnd]
    blockItems fuel (item :: items)

/-- The items of a block sequence that stand in the column of the mapping around it. No token ends
them. -/
def outdentedItems : Nat → List Node → Builder (List Node)
  | 0, _ => failure
  | fuel + 1, items => do
    if !(← took .item) then return items.reverse
    let item ← nodeBefore fuel .block [.item, .key, .value, .blockEnd]
    outdentedItems fuel (item :: items)

/-- The entries of a block mapping. -/
def blockEntries : Nat → List (Node × Node) → Builder (List (Node × Node))
  | 0, _ => failure
  | fuel + 1, entries => do
    if ← took .blockEnd then return entries.reverse
    if !(← took .key) then failure
    let key ← nodeBefore fuel .blockEntry [.key, .value, .blockEnd]
    let value ← valueBefore fuel .blockEntry [.key, .value, .blockEnd]
    blockEntries fuel ((key, value) :: entries)

/-- The value after a key, which may be missing with or without its colon. -/
def valueBefore : Nat → Surroundings → List Token → Builder Node
  | 0, _, _ => failure
  | fuel + 1, surroundings, ends => do
    if ← took .value then nodeBefore fuel surroundings ends else pure .missing

/-- The items of a flow sequence. An item may be a single entry. -/
def flowItems : Nat → Bool → List Node → Builder (List Node)
  | 0, _, _ => failure
  | fuel + 1, isFirst, items => do
    if ← took .closeSequence then return items.reverse
    if !isFirst then
      if !(← took .comma) then failure
      if ← took .closeSequence then return items.reverse
    let item ←
      if ← took .key then pure (.mapping [← singleEntry fuel]) else node fuel .flow
    flowItems fuel false (item :: items)

/-- The single entry that is an item of a flow sequence. A token that shows the key to be missing is taken
with it. -/
def singleEntry : Nat → Builder (Node × Node)
  | 0 => failure
  | fuel + 1 => do
    let key ←
      if ← stands [.value, .comma, .closeSequence] then
        skipToken
        pure .missing
      else
        node fuel .flow
    pure (key, ← valueBefore fuel .flow [.comma, .closeSequence])

/-- The entries of a flow mapping. A node that is not marked as a key has no value. -/
def flowEntries : Nat → Bool → List (Node × Node) → Builder (List (Node × Node))
  | 0, _, _ => failure
  | fuel + 1, isFirst, entries => do
    if ← took .closeMapping then return entries.reverse
    if !isFirst then
      if !(← took .comma) then failure
      if ← took .closeMapping then return entries.reverse
    let entry ←
      if ← took .key then
        let key ← nodeBefore fuel .flow [.value, .comma, .closeMapping]
        pure (key, ← valueBefore fuel .flow [.comma, .closeMapping])
      else
        pure (← node fuel .flow, .missing)
    flowEntries fuel false (entry :: entries)

end

/-! ### Documents -/

/-- Whether a version of the language is supported. -/
def isSupportedVersion (major minor : Nat) : Bool := major == 1 && (minor == 1 || minor == 2)

/-- The handles that need no directive. -/
def defaultHandles : List (String × String) := [("!", "!"), ("!!", "tag:yaml.org,2002:")]

/-- Takes the directives in front of a document, and says whether there are any. The version may be given
once, and each handle once. -/
def directives : Nat → Bool → Bool → Builder Bool
  | 0, _, found => pure found
  | fuel + 1, hasVersion, found => do
    match (← next?) with
    | some (.version major minor) =>
      if hasVersion || !isSupportedVersion major minor then failure
      skipToken
      directives fuel true true
    | some (.handle name expansion) =>
      if ((← get).handles.lookup name).isSome then failure
      modify fun s => { s with handles := (name, expansion) :: s.handles }
      skipToken
      directives fuel hasVersion true
    | _ => pure found

/-- Whether the content of a document is over before it has begun. -/
def endsDocument : Option Token → Bool
  | none | some .documentStart | some .documentEnd | some (.version ..) | some (.handle ..) => true
  | _ => false

/-- Takes the ends of the document. -/
def documentEnds : Nat → Builder Unit
  | 0 => pure ()
  | fuel + 1 => do
    if ← took .documentEnd then documentEnds fuel

/-- Takes all tokens for one document. -/
def rootNode : Builder Node := do
  let count := (← get).tokens.length
  let fuel := 4 * count + 8
  let hasDirectives ← directives count false false
  modify fun s => { s with handles := s.handles ++ defaultHandles }
  let isMarked ← took .documentStart
  if hasDirectives && !isMarked then failure
  let root ←
    if isMarked then
      if endsDocument (← next?) then pure .missing else node fuel .block
    else if (← next?).isNone then pure .missing
    else node fuel .block
  documentEnds count
  if (← next?).isSome then failure
  pure root

/-- The document that tokens spell. -/
def document? (tokens : List Token) : Option Document := do
  let (root, s) ← rootNode.run { tokens }
  pure { root, anchors := s.anchors, nodes := s.nodes }

/-- The one document of a text. -/
def parse? (text : String) : Option Document := do
  document? (← tokens? text)

end SqlLineage.Yaml
