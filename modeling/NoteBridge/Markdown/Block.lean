import NoteBridge.Markdown.Html
import NoteBridge.Markdown.Marker
import NoteBridge.Markdown.Reference
import NoteBridge.Markdown.TableRow

/-!
The blocks of a text whose inline content is not read yet, and the blocks that are still open while
lines are added. Closing an open block gives its final form: a paragraph loses the definitions at
its start and vanishes if nothing else is in it, code loses its fence and its blank end.
-/

namespace NoteBridge.Markdown

open Text

inductive Block
  | heading (level : Nat) (content : List Char)
  | paragraph (content : List Char)
  | list (bullet : Bullet) (items : List (List Block))
  | quote (children : List Block)
  | code (info literal : List Char)
  | rule
  | table (header : List (List Char)) (rows : List (List (List Char)))
  | html (content : List Char)

instance : Inhabited Block := ⟨.rule⟩

/-- An open block that holds lines. The flag of a paragraph tells that a line in the form of a
table's second row did not fit it, after which it becomes no table any more. -/
inductive Leaf
  | paragraph (content : List Char) (noTable : Bool)
  | fenced (fence : Fence) (indent : Nat) (info content : List Char)
  | indented (content : List Char)
  | html (kind : Html.BlockKind) (content : List Char)
  | table (header : List (List Char)) (rows : List (List (List Char)))

def Leaf.isParagraph : Leaf → Bool
  | paragraph _ _ => true
  | _ => false

/-- Whether a line of text is enough to begin no other block inside this one. -/
def Leaf.isVerbatim : Leaf → Bool
  | fenced _ _ _ _ | indented _ | html _ _ => true
  | _ => false

/-- An open item: the columns of indentation that keep a line in it, and its blocks, the last one
first. -/
structure Item where
  width : Nat
  blocks : List Block

/-- An open container, its last block or item first. A list has an open item until a line leaves
it. -/
inductive Container
  | quote (blocks : List Block)
  | list (bullet : Bullet) (items : List (List Block)) (item : Option Item)

/-- What is open: the containers, innermost first, and what the lines so far have defined. -/
structure Outline where
  blocks : List Block := []
  containers : List Container := []
  leaf : Option Leaf := none
  references : References := {}

/-- Whether a paragraph shows nothing. -/
def showsNothing (content : List Char) : Bool :=
  match content.dropWhile isSpaceOrTab with
  | [] => true
  | c :: _ => c == '\n'

/-- Indented code ends with its last line that is not blank. -/
def withoutBlankEnd (content : List Char) : List Char :=
  let isEmpty (c : Char) : Bool := isSpaceOrTab c || c == '\n'
  dropEndWhile isEmpty content ++ (takeEndWhile isEmpty content).takeWhile (· != '\n')

namespace Outline

/-- Ends the open item of the innermost list. -/
def closeItem (o : Outline) : Outline :=
  match o.containers with
  | .list bullet items (some item) :: outer =>
    { o with containers := .list bullet (item.blocks.reverse :: items) none :: outer }
  | _ => o

/-- Adds a block where there is no list without an open item. -/
def place (block : Block) (o : Outline) : Outline :=
  match o.containers with
  | .quote blocks :: outer => { o with containers := .quote (block :: blocks) :: outer }
  | .list bullet items (some item) :: outer =>
    let item := { item with blocks := block :: item.blocks }
    { o with containers := .list bullet items (some item) :: outer }
  | _ => { o with blocks := block :: o.blocks }

/-- Closes the lists without an open item that are innermost. -/
def closeLists (o : Outline) : Outline :=
  match _h : o.containers with
  | .list bullet items none :: outer =>
    (closeLists { o with containers := outer }).place (.list bullet items.reverse)
  | _ => o
termination_by o.containers.length
decreasing_by simp_all

/-- Adds a block. -/
def add (block : Block) (o : Outline) : Outline := o.closeLists.place block

/-- Ends the open leaf. -/
def closeLeaf (o : Outline) : Outline :=
  match o.leaf with
  | none => o
  | some leaf =>
    let o := { o with leaf := none }
    match leaf with
    | .paragraph content _ =>
      let (references, content) := o.references.take content
      let o := { o with references }
      if showsNothing content then o else o.add (.paragraph content)
    | .fenced _ _ info content => o.add (.code (unescape (trimSpacing (decode info))) content)
    | .indented content => o.add (.code [] (withoutBlankEnd content ++ ['\n']))
    | .html _ content => o.add (.html content)
    | .table header rows => o.add (.table header rows.reverse)

/-- Ends the innermost container. -/
def closeContainer (o : Outline) : Outline :=
  let o := o.closeLeaf.closeItem
  match o.containers with
  | [] => o
  | .quote blocks :: outer => { o with containers := outer }.add (.quote blocks.reverse)
  | .list bullet items _ :: outer =>
    { o with containers := outer }.add (.list bullet items.reverse)

end Outline
end NoteBridge.Markdown
