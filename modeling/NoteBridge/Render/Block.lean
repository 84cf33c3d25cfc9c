import NoteBridge.Compose.Code
import NoteBridge.Compose.Paragraph
import NoteBridge.Page.Validity
import NoteBridge.Render.Run
import NoteBridge.Text.Lines

/-!
From blocks to markup. Blocks that only group others are looked through, so that separators and
numbers run across their borders. Neighbouring list items stand on neighbouring lines, any other
blocks are parted by an empty line.
-/

namespace NoteBridge.Render

open Page (Block BlockKind Fault Run Color)
open Text

/-- What rendering blocks depends on. -/
structure Context where
  options : Options
  resolver : Resolver

def Context.runs (context : Context) : RunContext :=
  ⟨context.resolver, context.options.highlight⟩

def indentation : List Char := [' ', ' ']

def mapLines (f : List Char → List Char) (text : List Char) : List Char :=
  join ['\n'] ((lines text).map f)

def indentLines (text : List Char) : List Char :=
  mapLines (fun line => if line.isEmpty then [] else indentation ++ line) text

def quoteLines (text : List Char) : List Char :=
  mapLines (fun line => if line.isEmpty then ['>'] else '>' :: ' ' :: line) text

def heading (context : Context) (level : Nat) (runs : List Run) : List Char :=
  let text := replaceChar '\n' [' '] (renderRuns context.runs runs)
  List.replicate level '#' ++ ' ' :: trim text

def fenced (fence info content : List Char) : List Char :=
  fence ++ info ++ '\n' :: content ++ '\n' :: fence

def codeFence (runs : List Run) (language : String) : List Char :=
  let content := dropEndWhile (· == '\n') (Page.plainChars runs)
  fenced (fenceFor content) (if language = Page.plainLanguage then [] else language.toList) content

def linkText (shown : List Char) (url : String) : List Char :=
  '[' :: shown ++ "](".toList ++ url.toList ++ [')']

/-- An image shows its caption, any other resource its caption or else its address. -/
def mediaText (form : Page.MediaForm) (url : String) (caption : List Run) : List Char :=
  let shown := Page.plainChars caption
  match form with
  | .image => '!' :: linkText shown url
  | _ => linkText (if allBlank shown then url.toList else trim shown) url

def escapeCell (text : List Char) : List Char :=
  replaceChar '\n' "<br>".toList (replaceChar '|' ['\\', '|'] text)

def tableLine (cells : List (List Char)) : List Char :=
  "| ".toList ++ join " | ".toList cells ++ " |".toList

/-- The texts of a row, of exactly `width` cells. -/
def rowCells (context : Context) (width : Nat) (row : List (List Run)) : List (List Char) :=
  let cells := (row.take width).map fun cell => escapeCell (renderRuns context.runs cell)
  cells ++ List.replicate (width - cells.length) []

def rowOf? (block : Block) : Option (List (List Run)) :=
  match block.kind with
  | .tableRow cells => some cells
  | _ => none

/-- A table without rows shows nothing. -/
def tableText (context : Context) (width : Nat) (children : List Block) : List Char :=
  let width := max width 1
  match (children.filterMap rowOf?).map (rowCells context width) with
  | [] => []
  | header :: rows =>
    let rule := List.replicate width "---".toList
    join ['\n'] (tableLine header :: tableLine rule :: rows.map tableLine)

/-- The query that a callout stands in for, in its fence. -/
def queryFence? (context : Context) (runs : List Run) (icon : String) (color : Color) :
    Option (List Char) :=
  if icon = context.options.callouts.query ∧ color = .background .blue then
    match runs with
    | [] => none
    | first :: rest =>
      match before? Compose.queryTitleEnding.toList first.chars with
      | none => none
      | some language =>
        if first.style.bold then
          let query := Page.plainChars (rest.filter fun run => run.style.code)
          some (fenced (fenceFor query) language query)
        else none
  else none

/-- The path of the local image that a callout stands in for. -/
def localImagePath? (runs : List Run) (icon : String) : Option (List Char) :=
  if icon = Compose.localImageIcon then (runs.find? fun run => run.style.code).map Run.chars
  else none

/-- A bold text without a link on one line is the title of a callout, if the line ends with it. -/
def isTitleRun (first : Run) (rest : List Run) : Bool :=
  first.style.bold && first.kind == .text none && !first.chars.contains '\n' &&
    match rest with
    | [] => true
    | next :: _ => next.chars.head? == some '\n'

/-- The runs without the line feed they begin with. -/
def dropLineFeed : List Run → List Run
  | [] => []
  | next :: rest =>
    match next.chars.drop 1 with
    | [] => rest
    | cs => next.withChars cs :: rest

/-- The title of a callout and the runs of its body. -/
def splitTitle : List Run → Option (List Char) × List Run
  | [] => (none, [])
  | first :: rest =>
    if isTitleRun first rest then (some (trim first.chars), dropLineFeed rest)
    else (none, first :: rest)

def calloutHead (context : Context) (runs : List Run) (icon : String) : List Char :=
  let (title, body) := splitTitle runs
  let name := context.options.callouts.nameFor icon
  let shownTitle := match title with
    | some title => ' ' :: escape false title
    | none => []
  let text := renderRuns context.runs body
  "[!".toList ++ name.toList ++ ']' :: shownTitle ++ (if text.isEmpty then [] else '\n' :: text)

def withNested (text nested : List Char) : List Char :=
  if nested.isEmpty then text
  else if text.isEmpty then nested
  else text ++ '\n' :: '\n' :: nested

def itemText (context : Context) (marker : List Char) (runs : List Run) (nested : List Char) :
    List Char :=
  let text := replaceChar '\n' ('\n' :: indentation) (renderRuns context.runs runs)
  marker ++ text ++ (if nested.isEmpty then [] else '\n' :: indentLines nested)

/-- A rendered block, and whether it is a list item. -/
structure Piece where
  isItem : Bool
  text : List Char

/-- The pieces of a level that show something, with what parts them. -/
def joinPieces : List Piece → List Char
  | [] => []
  | [piece] => piece.text
  | piece :: next :: pieces =>
    piece.text ++ (if piece.isItem && next.isItem then ['\n'] else ['\n', '\n']) ++
      joinPieces (next :: pieces)

mutual

/-- The markup of a block, `number` being its place in a row of numbered items. -/
def renderBlock (context : Context) (depth number : Nat) : Block → Except Fault (List Char)
  | ⟨_, kind, children⟩ =>
    match kind with
    | .text form runs _ =>
      match form with
      | .paragraph => do
        let nested ← renderLevel context (depth + 1) children
        pure (withNested (renderRuns context.runs runs) nested)
      | .heading1 => .ok (heading context 1 runs)
      | .heading2 => .ok (heading context 2 runs)
      | .heading3 => .ok (heading context 3 runs)
      | .bulletedItem | .toggle => do
        let nested ← renderLevel context (depth + 1) children
        pure (itemText context "- ".toList runs nested)
      | .numberedItem => do
        let nested ← renderLevel context (depth + 1) children
        pure (itemText context ((toString number).toList ++ ['.', ' ']) runs nested)
      | .quote => do
        let nested ← renderLevel context (depth + 1) children
        pure (quoteLines (withNested (renderRuns context.runs runs) nested))
    | .toDo runs checked => do
      let nested ← renderLevel context (depth + 1) children
      pure (itemText context (if checked then "- [x] ".toList else "- [ ] ".toList) runs nested)
    | .callout runs icon color =>
      match queryFence? context runs icon color, localImagePath? runs icon with
      | some fence, _ => .ok fence
      | none, some path => .ok ("![[".toList ++ path ++ "]]".toList)
      | none, none => do
        let nested ← renderLevel context (depth + 1) children
        pure (quoteLines (withNested (calloutHead context runs icon) nested))
    | .code runs language _ => .ok (codeFence runs language)
    | .divider => .ok "---".toList
    | .equation expression =>
      .ok ("$$\n".toList ++ trim expression.toList ++ "\n$$".toList)
    | .media form url caption => .ok (mediaText form url caption)
    | .table width _ _ => .ok (tableText context width children)
    | .tableRow _ => .error .misplacedTableRow
    | .columnList | .column | .syncedBlock => renderLevel context depth children
    | .childPage title => .ok ("[[".toList ++ title.toList ++ "]]".toList)
    | .unsupported name =>
      .ok ("<!-- unsupported block: ".toList ++ name.toList ++ " -->".toList)

/-- The pieces of blocks at one depth, and the number of the last one. -/
def renderPieces (context : Context) (depth number : Nat) :
    List Block → Except Fault (List Piece × Nat)
  | [] => .ok ([], number)
  | ⟨id, kind, children⟩ :: blocks =>
    if kind.isTransparent then do
      let (inside, last) ← renderPieces context depth number children
      let (pieces, last) ← renderPieces context depth last blocks
      pure (inside ++ pieces, last)
    else do
      let number := if kind.isNumbered then number + 1 else 0
      let text ← renderBlock context depth number ⟨id, kind, children⟩
      let (pieces, last) ← renderPieces context depth number blocks
      pure (if text.isEmpty then (pieces, last) else (⟨kind.isListItem, text⟩ :: pieces, last))

/-- The markup of a level, which must not lie deeper than the options allow unless it is empty. -/
def renderLevel (context : Context) (depth : Nat) (blocks : List Block) :
    Except Fault (List Char) :=
  match blocks with
  | [] => .ok []
  | block :: rest =>
    if context.options.maxDepth < depth then .error (.depthExceeded context.options.maxDepth)
    else do
      let (pieces, _) ← renderPieces context depth 0 (block :: rest)
      pure (joinPieces pieces)

end

/-- The markup of a valid forest. It ends with a line feed unless it is empty. -/
def render (context : Context) (blocks : List Block) : Except Fault (List Char) := do
  Page.check blocks
  let text ← renderLevel context 0 blocks
  pure (if text.isEmpty then [] else text ++ ['\n'])

end NoteBridge.Render
