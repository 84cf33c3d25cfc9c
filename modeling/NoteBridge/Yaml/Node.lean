import NoteBridge.Yaml.Token

/-!
The node that the tokens of a text make up. Indentation has become tokens already, so that blocks
and flows are read alike. A reference names the node that an anchor marked before it; which node a
name stands for is settled when all of the text is read.
-/

namespace NoteBridge.Yaml

inductive Node
  | scalar (tag : Option (List Char)) (plain : Bool) (content : List Char)
  | sequence (tag : Option (List Char)) (items : List Node)
  | mapping (tag : Option (List Char)) (entries : List (Node × Node))
  | reference (mark : Nat)

namespace Node

def empty : Node := scalar none true []

instance : Inhabited Node := ⟨empty⟩

end Node

/-- What is left to read, what the handles of tags expand to, the marks of the names met so far, the
nodes of the marks, and the number of parts of nodes that were read. -/
structure Reader where
  tokens : List Token
  handles : List (List Char × List Char) := []
  names : List (List Char × Nat) := []
  marked : List (Nat × Node) := []
  parts : Nat := 0

/-- Reading fails as a whole or gives a value. -/
abbrev Read := StateT Reader Option

namespace Read

def next? : Read (Option Token) := do return (← get).tokens.head?

def skip : Read Unit := modify fun r => { r with tokens := r.tokens.drop 1 }

/-- Takes the token if it is the next one. -/
def takes (token : Token) : Read Bool := do
  if (← next?) == some token then
    skip
    return true
  else return false

def expect (token : Token) : Read Unit := do
  if !(← takes token) then failure

def count (parts : Nat) : Read Unit := modify fun r => { r with parts := r.parts + parts }

/-- The mark of a name that an anchor gives to the node that follows. -/
def mark (name : List Char) : Read Nat := do
  let r ← get
  let mark := r.names.length
  let others := r.names.filter (·.1 != name)
  set { r with names := (name, mark) :: others }
  return mark

def refer (name : List Char) : Read Node := do
  match (← get).names.lookup name with
  | some mark => return .reference mark
  | none => failure

/-- The full text of a tag. -/
def expand (handle suffix : List Char) : Read (List Char) := do
  if handle.isEmpty then return suffix
  else
    match (← get).handles.lookup handle with
    | some expansion => return expansion ++ suffix
    | none => failure

/-- What stands in front of a node: a mark and a tag, in either order. -/
structure Properties where
  mark : Option Nat := none
  tag : Option (List Char) := none

def Properties.isEmpty (p : Properties) : Bool := p.mark.isNone && p.tag.isNone

def anchor? : Read (Option Nat) := do
  match ← next? with
  | some (.anchor name) =>
    skip
    return some (← mark name)
  | _ => return none

def tag? : Read (Option (List Char)) := do
  match ← next? with
  | some (.tag handle suffix) =>
    skip
    return some (← expand handle suffix)
  | _ => return none

def properties : Read Properties := do
  match ← anchor? with
  | some mark => return { mark := some mark, tag := ← tag? }
  | none =>
    match ← tag? with
    | some tag => return { tag := some tag, mark := ← anchor? }
    | none => return {}

/-- Where nodes stand: in a block, as a key or value of a block mapping, where a sequence may go
without deeper indentation, or in a flow. -/
inductive Context
  | block
  | mapping
  | flow
deriving DecidableEq

/-- Reads nodes; every call inside another one uses up some of `fuel`. -/
structure Nodes where
  node : Context → Read Node
  items : Read (List Node)
  looseItems : Read (List Node)
  entries : Read (List (Node × Node))
  flowItems : Bool → Read (List Node)
  flowEntries : Bool → Read (List (Node × Node))

def Nodes.stuck : Nodes where
  node _ := failure
  items := failure
  looseItems := failure
  entries := failure
  flowItems _ := failure
  flowEntries _ := failure

/-- The node here, or an empty one where one of these tokens follows. -/
def orEmpty (inner : Nodes) (context : Context) (stops : List Token) : Read Node := do
  if (← next?).any stops.contains then
    count 1
    return .empty
  else inner.node context

/-- The content of a node: a scalar, or what a token opens. -/
def content (inner : Nodes) (context : Context) (p : Properties) : Read Node := do
  match ← next? with
  | some (.scalar plain text) =>
    skip
    count 1
    return .scalar p.tag plain text
  | some .flowSequence =>
    skip
    count 2
    return .sequence p.tag (← inner.flowItems true)
  | some .flowMapping =>
    skip
    count 2
    return .mapping p.tag (← inner.flowEntries true)
  | some .blockSequence =>
    if context = .flow then failure
    else
      skip
      count 2
      return .sequence p.tag (← inner.items)
  | some .blockMapping =>
    if context = .flow then failure
    else
      skip
      count 2
      return .mapping p.tag (← inner.entries)
  | some .blockEntry =>
    if context = .mapping then
      count 2
      return .sequence p.tag (← inner.looseItems)
    else if p.isEmpty then failure
    else
      count 1
      return .scalar p.tag true []
  | _ =>
    if p.isEmpty then failure
    else
      count 1
      return .scalar p.tag true []

def node (inner : Nodes) (context : Context) : Read Node := do
  match ← next? with
  | some (.reference name) =>
    skip
    count 1
    refer name
  | _ =>
    let p ← properties
    let node ← content inner context p
    match p.mark with
    | some mark => modify fun r => { r with marked := (mark, node) :: r.marked }
    | none => pure ()
    return node

/-- The items of a block sequence, up to the token that closes it. -/
def items (inner : Nodes) : Read (List Node) := do
  if ← takes .blockEntry then
    let item ← orEmpty inner .block [.blockEntry, .blockEnd]
    return item :: (← inner.items)
  else
    expect .blockEnd
    return []

/-- The items of a block sequence that no token closes. -/
def looseItems (inner : Nodes) : Read (List Node) := do
  if ← takes .blockEntry then
    let item ← orEmpty inner .block [.blockEntry, .key, .value, .blockEnd]
    return item :: (← inner.looseItems)
  else return []

/-- The value behind a key, an empty one if there is none. -/
def valueOr (inner : Nodes) (context : Context) (stops : List Token) : Read Node := do
  if ← takes .value then orEmpty inner context stops
  else
    count 1
    return .empty

def entries (inner : Nodes) : Read (List (Node × Node)) := do
  if ← takes .key then
    let key ← orEmpty inner .mapping [.key, .value, .blockEnd]
    let value ← valueOr inner .mapping [.key, .value, .blockEnd]
    return (key, value) :: (← inner.entries)
  else
    expect .blockEnd
    return []

/-- The mark between the parts of a flow, which the first part goes without. -/
def separated (first : Bool) : Read Unit := if first then pure () else expect .flowEntry

/-- An item of a flow sequence that is a mapping of one entry. -/
def soleEntry (inner : Nodes) : Read Node := do
  count 2
  let stops := [.value, .flowEntry, .flowSequenceEnd]
  let key ←
    if (← next?).any stops.contains then do
      skip
      count 1
      pure Node.empty
    else inner.node .flow
  let value ← valueOr inner .flow [.flowEntry, .flowSequenceEnd]
  return .mapping none [(key, value)]

def flowItems (inner : Nodes) (first : Bool) : Read (List Node) := do
  if ← takes .flowSequenceEnd then return []
  else
    separated first
    if ← takes .flowSequenceEnd then return []
    else
      let item ← if ← takes .key then soleEntry inner else inner.node .flow
      return item :: (← inner.flowItems false)

def flowEntries (inner : Nodes) (first : Bool) : Read (List (Node × Node)) := do
  if ← takes .flowMappingEnd then return []
  else
    separated first
    if ← takes .flowMappingEnd then return []
    else if ← takes .key then
      let key ← orEmpty inner .flow [.value, .flowEntry, .flowMappingEnd]
      let value ← valueOr inner .flow [.flowEntry, .flowMappingEnd]
      return (key, value) :: (← inner.flowEntries false)
    else
      let key ← inner.node .flow
      count 1
      return (key, .empty) :: (← inner.flowEntries false)

def nodes : Nat → Nodes
  | 0 => .stuck
  | fuel + 1 =>
    let inner := nodes fuel
    { node := node inner
      items := items inner
      looseItems := looseItems inner
      entries := entries inner
      flowItems := flowItems inner
      flowEntries := flowEntries inner }

/-! ### Documents -/

/-- The directives before a document. A version may be given once, a handle too. -/
def directives : List Token → Bool → List (List Char × List Char) →
    Option (List (List Char × List Char) × List Token)
  | .version major minor :: tokens, given, handles =>
    if given || major != 1 || (minor != 1 && minor != 2) then none
    else directives tokens true handles
  | .tagHandle handle expansion :: tokens, given, handles =>
    if (handles.lookup handle).isSome then none
    else directives tokens given ((handle, expansion) :: handles)
  | tokens, _, handles => some (handles, tokens)

def commonHandles : List (List Char × List Char) :=
  [(['!'], ['!']), (['!', '!'], "tag:yaml.org,2002:".toList)]

/-- The one node of a text, and what was read on the way. Behind it there is nothing but ends of the
document; before it there may be directives and the start of the document. -/
def document? (tokens : List Token) : Option (Node × Reader) := do
  let (handles, rest) ← directives tokens false []
  let rest ← match rest with
    | .documentStart :: rest => some rest
    | _ => if rest.length = tokens.length then some rest else none
  let ends := match rest with
    | [] | .documentStart :: _ | .documentEnd :: _ => true
    | _ => false
  if ends then none
  else
    let reader : Reader := { tokens := rest, handles := handles ++ commonHandles }
    let (node, reader) ← ((nodes (2 * rest.length + 2)).node .block).run reader
    if reader.tokens.all (· == .documentEnd) then some (node, reader) else none

end Read
end NoteBridge.Yaml
