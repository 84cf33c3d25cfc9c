import NoteBridge.Compose.Callout
import NoteBridge.Compose.Code
import NoteBridge.Compose.Paragraph
import NoteBridge.Page.Validity

/-!
From a document tree to a forest of blocks. The first paragraph of a list item or quote becomes the
text of its block, what follows it becomes the block's children, one level deeper. A level that is
not empty must not lie deeper than the options allow.
-/

namespace NoteBridge.Compose

open Markup (Inline Node Row Document)
open Page (Block BlockKind Fault Run TextForm)

def headingForm (level : Nat) : TextForm :=
  if level = 1 then .heading1 else if level = 2 then .heading2 else .heading3

/-- The inline content without the blank text it may begin with. -/
def withoutLead : List Inline → List Inline
  | .text content :: rest =>
    if Text.allBlank content.toList then rest else .text content :: rest
  | inlines => inlines

/-- The kind of a list item, by the checkbox its text begins with and by the list it is in. -/
def itemKind (context : Context) (ordered : Bool) (lead : List Inline) : BlockKind :=
  match lead with
  | .checkbox checked :: rest => .toDo (compose context (withoutLead rest)) checked
  | _ =>
    .text (if ordered then .numberedItem else .bulletedItem) (compose context (withoutLead lead))

/-- A callout shows its title in bold, on a line of its own if more follows. -/
def calloutRuns (context : Context) (marker : CalloutMarker) : List Run :=
  let title := String.ofList marker.title
  let head :=
    if marker.title.isEmpty then []
    else .text title { bold := true } :: (if marker.body.isEmpty then [] else [.text "\n"])
  head ++ compose context marker.body

def quoteKind (context : Context) (lead : Option (List Inline)) : BlockKind :=
  match lead.bind calloutMarker? with
  | some marker =>
    .callout (calloutRuns context marker)
      (context.options.callouts.iconFor (String.ofList marker.name)) .default
  | none => .text .quote (compose context (lead.getD []))

/-- A row of exactly `width` cells. -/
def tableRow (context : Context) (width : Nat) (row : Row) : Block :=
  let cells := (row.take width).map (compose context ·)
  .leaf (.tableRow (cells ++ List.replicate (width - cells.length) []))

/-- A table is as wide as its first row, and not narrower than one cell. -/
def tableBlock (context : Context) (header : Option Row) (rows : List Row) : Block :=
  let all := header.toList ++ rows
  let width := max (all.head?.map List.length |>.getD 0) 1
  { kind := .table width header.isSome false
    children := all.map (tableRow context width) }

/-- A leading paragraph and the nodes after it; other nodes have none. -/
def splitLead : List Node → Option (List Inline) × List Node
  | .paragraph content :: rest => (some content, rest)
  | nodes => (none, nodes)

mutual

def nodeBlocks (context : Context) (depth : Nat) : Node → Except Fault (List Block)
  | .heading level content =>
    .ok [.leaf (.text (headingForm level) (compose context content))]
  | .paragraph content => .ok [paragraphBlock context content]
  | .list ordered _ items => itemBlocks context depth ordered items
  | .quote children => do
    let kind := quoteKind context (splitLead children).1
    let nested ← restBlocks context (depth + 1) children
    pure [{ kind, children := nested }]
  | .fencedCode language literal => .ok [codeBlock context.options language literal]
  | .thematicBreak => .ok [.leaf .divider]
  | .table header rows => .ok [tableBlock context header rows]
  | .html _ => .ok []

def itemBlocks (context : Context) (depth : Nat) (ordered : Bool) :
    List (List Node) → Except Fault (List Block)
  | [] => .ok []
  | item :: items => do
    let nested ← restBlocks context (depth + 1) item
    let kind := itemKind context ordered ((splitLead item).1.getD [])
    let blocks ← itemBlocks context depth ordered items
    pure ({ kind, children := nested } :: blocks)

/-- The blocks of the nodes after a leading paragraph, which are a level if there are any. -/
def restBlocks (context : Context) (depth : Nat) : List Node → Except Fault (List Block)
  | [] => .ok []
  | .paragraph _ :: rest =>
    if rest.isEmpty then .ok []
    else if context.options.maxDepth < depth then
      .error (.depthExceeded context.options.maxDepth)
    else levelBlocks context depth rest
  | node :: rest =>
    if context.options.maxDepth < depth then .error (.depthExceeded context.options.maxDepth)
    else do
      let first ← nodeBlocks context depth node
      let others ← levelBlocks context depth rest
      pure (first ++ others)

def levelBlocks (context : Context) (depth : Nat) : List Node → Except Fault (List Block)
  | [] => .ok []
  | node :: nodes => do
    let first ← nodeBlocks context depth node
    let others ← levelBlocks context depth nodes
    pure (first ++ others)

end

/-- The blocks of a document; an empty one is never too deep. -/
def documentBlocks (context : Context) (document : Document) : Except Fault (List Block) := do
  let blocks ← levelBlocks context 0 document
  Page.check blocks
  pure blocks

end NoteBridge.Compose
