import NoteBridge.Markdown.Block
import NoteBridge.Text.Lines

/-!
Block structure, line by line. A line first goes through the containers that it continues; what it
does not continue is closed. Then it opens new blocks, and what is left of it is text. There is one
exception to the closing: a line of text that opens nothing still continues an open paragraph.
-/

namespace NoteBridge.Markdown

open Text

/-! ### Continuing -/

/-- Behind the mark of a quotation and one space. -/
def Cursor.insideQuote? (c : Cursor) : Option Cursor :=
  if c.isIndented then none
  else
    match c.skipBlanks.rest with
    | '>' :: _ => some (c.skipBlanks.skipChars 1).skipColumn
    | _ => none

/-- How a line goes through containers: how many it leaves, whether it leaves the item of the list
around these, and its place in the innermost one that it continues. -/
structure Passage where
  left : Nat
  leavesItem : Bool
  cursor : Cursor

/-- Goes through containers, outermost first. -/
def Cursor.pass (hasLeaf : Bool) (c : Cursor) : List Container → Passage
  | [] => ⟨0, false, c⟩
  | .quote _ :: inner =>
    match c.insideQuote? with
    | some next => next.pass hasLeaf inner
    | none => ⟨inner.length + 1, false, c⟩
  | .list _ _ none :: inner => c.pass hasLeaf inner
  | .list _ _ (some item) :: inner =>
    if item.width ≤ c.indent then (c.skipColumns item.width).pass hasLeaf inner
    else if c.isBlank && (!item.blocks.isEmpty || !inner.isEmpty || hasLeaf) then
      c.skipBlanks.pass hasLeaf inner
    else ⟨inner.length, true, c⟩

/-- What a line does to the open leaf that it reaches: it stays in it at some place, or outside of
it, or closes it and is used up. -/
inductive LeafPassage
  | inside (cursor : Cursor)
  | outside
  | closing

def Leaf.pass (c : Cursor) : Leaf → LeafPassage
  | .paragraph _ _ => if c.isBlank then .outside else .inside c
  | .fenced fence indent _ _ =>
    if !c.isIndented && fence.isClosedBy c.skipBlanks.rest then .closing
    else .inside (c.skipColumns indent)
  | .indented _ =>
    if c.isIndented then .inside (c.skipColumns Cursor.tabStop)
    else if c.isBlank then .inside c.skipBlanks
    else .outside
  | .html kind _ => if kind.endsAtBlank && c.isBlank then .outside else .inside c
  | .table _ _ => if (TableRow.cells c.skipBlanks.rest).isEmpty then .outside else .inside c

namespace Outline

def closeContainers : Nat → Outline → Outline
  | 0, o => o
  | n + 1, o => closeContainers n o.closeContainer

/-! ### Opening -/

/-- What a line can open. -/
inductive Opening
  | quote (next : Cursor)
  | item (bullet : Bullet) (width : Nat) (next : Cursor)
  | heading (level : Nat) (content : List Char)
  | underline (level : Nat)
  | fence (fence : Fence) (indent : Nat) (info : List Char)
  | html (kind : Html.BlockKind)
  | rule
  | code
  | row (cells : List (List Char))

/-- The most containers that one line can open as lists. -/
def depthLimit : Nat := 100

/-- The item whose mark stands here. Its content begins behind up to four columns of spaces; behind
more of them, or where there is no content, it begins after one. -/
def itemAt? (inParagraph : Bool) (c : Cursor) : Option Opening :=
  (Bullet.read? inParagraph c.skipBlanks.rest).map fun (bullet, length) =>
    let behind := c.skipBlanks.skipChars length
    let gap := behind.indent
    let base := c.indent + length
    if 1 ≤ gap ∧ gap ≤ 4 ∧ !behind.isBlank then .item bullet (base + gap) (behind.skipColumns gap)
    else .item bullet (base + 1) behind.skipColumn

def htmlAt? (inParagraph : Bool) (text : List Char) : Option Opening :=
  match Html.blockStart? text with
  | some kind => some (.html kind)
  | none => if !inParagraph && Html.isTagLine text then some (.html .tag) else none

/-- The row that the text is for the open leaf: a further row of a table, or the second row for a
paragraph. -/
def rowAt? (leaf : Option Leaf) (text : List Char) : Option Opening :=
  match leaf with
  | some (.paragraph _ false) =>
    if TableRow.isRule text then some (.row (TableRow.cells text)) else none
  | some (.table _ _) => if text.isEmpty then none else some (.row (TableRow.cells text))
  | _ => none

/-- The opening at a place. Indented text is code, but not directly behind a paragraph. -/
def opening? (o : Outline) (behindText : Bool) (depth : Nat) (c : Cursor) : Option Opening :=
  let inParagraph := o.leaf.any Leaf.isParagraph
  let text := c.skipBlanks.rest
  if o.leaf.any Leaf.isVerbatim then none
  else if c.isIndented then if behindText || c.isBlank then none else some .code
  else
    c.insideQuote?.map Opening.quote <|>
    (heading? text).map (fun (level, content) => .heading level content) <|>
    (Fence.read? text).map (fun fence => .fence fence c.indentLength (text.drop fence.length)) <|>
    htmlAt? inParagraph text <|>
    (if inParagraph then (underline? text).map Opening.underline else none) <|>
    (if isRule text then some .rule else none) <|>
    (if depth < depthLimit then itemAt? inParagraph c else none) <|>
    rowAt? o.leaf text

/-- Makes the leaf the open one. -/
def openLeaf (leaf : Leaf) (o : Outline) : Outline :=
  { o.closeLeaf.closeLists with leaf := some leaf }

def openQuote (o : Outline) : Outline :=
  let o := o.closeLeaf.closeLists
  { o with containers := .quote [] :: o.containers }

/-- Opens an item, in the innermost list if that has no open item and the marks fit. -/
def openItem (bullet : Bullet) (width : Nat) (o : Outline) : Outline :=
  let o := o.closeLeaf
  match o.containers with
  | .list first items none :: outer =>
    if first.continues bullet then
      { o with containers := .list first items (some ⟨width, []⟩) :: outer }
    else
      let o := o.closeLists
      { o with containers := .list bullet [] (some ⟨width, []⟩) :: o.containers }
  | containers => { o with containers := .list bullet [] (some ⟨width, []⟩) :: containers }

/-- The last line of a paragraph, and what is before it. -/
def lastLine (content : List Char) : List Char × List Char :=
  let bare := dropEndWhile (· == '\n') content
  (takeEndWhile (· != '\n') bare, dropEndWhile (· != '\n') bare)

/-- Makes the open paragraph a table whose header is its last line, when that has as many cells as
the row under it. The lines before stay a paragraph. -/
def openTable (content : List Char) (rule : List (List Char)) (o : Outline) : Option Outline :=
  let (line, before) := lastLine content
  let header := TableRow.cells line
  if header.length = rule.length ∧ !header.isEmpty then
    let o := { o with leaf := none }
    let text := trimSpacing (TableRow.freeBars before)
    let o := if before.isEmpty then o else o.add (.paragraph text)
    some (o.openLeaf (.table header []))
  else none

/-- The state after an opening, and the place from which the line goes on. -/
def apply (o : Outline) (c : Cursor) : Opening → Outline × Option Cursor
  | .quote next => (o.openQuote, some next)
  | .item bullet width next => (o.openItem bullet width, some next)
  | .heading level content => (o.closeLeaf.add (.heading level content), none)
  | .underline level =>
    match o.leaf with
    | some (.paragraph content noTable) =>
      let (references, content) := o.references.take content
      let o := { o with references }
      if showsNothing content then ({ o with leaf := some (.paragraph content noTable) }, some c)
      else ({ o with leaf := none }.add (.heading level content), none)
    | _ => (o, some c)
  | .fence fence indent info => (o.openLeaf (.fenced fence indent info []), none)
  | .html kind => (o.openLeaf (.html kind []), some c)
  | .rule => (o.closeLeaf.add .rule, none)
  | .code => (o.openLeaf (.indented []), some (c.skipColumns Cursor.tabStop))
  | .row cells =>
    match o.leaf with
    | some (.paragraph content _) =>
      match o.openTable content cells with
      | some o => (o, none)
      | none => ({ o with leaf := some (.paragraph content true) }, some c)
    | some (.table header rows) =>
      ({ o with leaf := some (.table header (TableRow.fit header.length cells :: rows)) }, none)
    | _ => (o, some c)

/-- Whether more can open behind it on the same line. -/
def Opening.isContainer : Opening → Bool
  | quote _ | item _ _ _ => true
  | _ => false

/-- Opens all that the line opens. -/
def openAll (behindText : Bool) (depth : Nat) (o : Outline) (c : Cursor) :
    Outline × Option Cursor :=
  match o.opening? behindText depth c with
  | none => (o, some c)
  | some opening =>
    match o.apply c opening with
    | (o, some next) =>
      if opening.isContainer ∧ next.rest.length < c.rest.length then
        openAll false (depth + 1) o next
      else (o, some next)
    | (o, none) => (o, none)
termination_by c.rest.length

/-! ### Lines -/

/-- Adds what is left of a line as text. -/
def addText (c : Cursor) (o : Outline) : Outline :=
  match o.leaf with
  | none =>
    if c.isBlank then o else o.openLeaf (.paragraph c.skipBlanks.line false)
  | some (.paragraph content noTable) =>
    { o with leaf := some (.paragraph (content ++ c.skipBlanks.line) noTable) }
  | some (.fenced fence indent info content) =>
    { o with leaf := some (.fenced fence indent info (content ++ c.line)) }
  | some (.indented content) => { o with leaf := some (.indented (content ++ c.line)) }
  | some (.html kind content) =>
    let o := { o with leaf := some (.html kind (content ++ c.line)) }
    if kind.endsWith c.skipBlanks.rest then o.closeLeaf else o
  | some (.table _ _) => o

/-- Opens what the line opens and adds the rest. -/
def addFrom (behindText : Bool) (c : Cursor) (o : Outline) : Outline :=
  match o.openAll behindText 1 c with
  | (o, some c) => o.addText c
  | (o, none) => o

/-- Adds a line to `o` that leaves open blocks, `remaining` being what stays open. -/
def addLeaving (o remaining : Outline) (c : Cursor) : Outline :=
  match o.leaf with
  | some (.paragraph content noTable) =>
    if (remaining.opening? true 1 c).isNone && !c.isBlank then
      { o with leaf := some (.paragraph (content ++ c.line) noTable) }
    else remaining.addFrom true c
  | _ => remaining.addFrom false c

def addLine (o : Outline) (line : List Char) : Outline :=
  let passage := ({ rest := line } : Cursor).pass o.leaf.isSome o.containers.reverse
  let c := passage.cursor
  if passage.left = 0 ∧ !passage.leavesItem then
    match o.leaf with
    | none => o.addFrom false c
    | some leaf =>
      match leaf.pass c with
      | .inside c => o.addFrom leaf.isParagraph c
      | .outside => o.closeLeaf.addFrom leaf.isParagraph c
      | .closing => o.closeLeaf
  else
    let remaining := (o.closeContainers passage.left).closeLeaf
    o.addLeaving (if passage.leavesItem then remaining.closeItem else remaining) c

/-- The lines of a text, each ended by a line feed, a carriage return or both. -/
def sourceLines : List Char → List (List Char)
  | [] => []
  | '\r' :: '\n' :: cs => [] :: sourceLines cs
  | c :: cs =>
    if c = '\n' ∨ c = '\r' then [] :: sourceLines cs
    else
      let c := if c = '\x00' then CharacterReference.replacement else c
      match sourceLines cs with
      | [] => [[c]]
      | line :: lines => (c :: line) :: lines

/-- A text without the mark that may tell the order of its bytes. -/
def withoutByteOrderMark : List Char → List Char
  | '\uFEFF' :: cs => cs
  | cs => cs

/-- The blocks of a text, and what it defines. -/
def read (cs : List Char) : List Block × References :=
  let o := (sourceLines (withoutByteOrderMark cs)).foldl addLine {}
  let o := (o.closeContainers o.containers.length).closeLeaf
  (o.blocks.reverse, o.references)

end Outline
end NoteBridge.Markdown
