import NoteBridge.Markdown.Autolink
import NoteBridge.Markdown.Outline
import NoteBridge.Markdown.Scan
import NoteBridge.Markdown.Tag
import NoteBridge.Markup.WikiLink

/-!
The document that a text in Markdown stands for, and the tags in it. The tags inside a span come
before those of the text that surrounds it.
-/

namespace NoteBridge.Markdown

open Markup (Inline Node CrossRef)

/-! ### Inline content -/

def nonEmpty? (cs : List Char) : Option String :=
  if cs.isEmpty then none else some (String.ofList cs)

/-- Puts text behind other content, which is the last one first. -/
def pushText (cs : List Char) : List Inline → List Inline
  | .text last :: out => .text (last ++ String.ofList cs) :: out
  | out => .text (String.ofList cs) :: out

/-- Takes the exclamation mark off that makes the next cross-reference an embedding. -/
def takeEmbedMark (out : List Inline) : Bool × List Inline :=
  match out with
  | .text last :: before =>
    match Text.before? ['!'] last.toList with
    | some [] => (true, before)
    | some rest => (true, .text (String.ofList rest) :: before)
    | none => (false, out)
  | _ => (false, out)

/-- The note that a link names; the shown text counts where the name holds none. -/
def crossRef (url label : List Char) (embed : Bool) : CrossRef :=
  let ref := CrossRef.parseChars url embed
  if ref.label.isNone && label != url then { ref with label := nonEmpty? label } else ref

/-- A link whose text is its own address is an automatic one. -/
def link (url title : List Char) (children : List Inline) : Inline :=
  let isAddress := match children with
    | [.text shown] => shown.toList == url || Verbatim.mailScheme ++ shown.toList == url
    | _ => false
  if isAddress then .autolink (String.ofList url)
  else .link (String.ofList url) (nonEmpty? title) children

def withCrossRefs : Inline → List Inline
  | .text s => if (Text.cut? ['[', '['] s.toList).isSome then Markup.WikiLink.split s else [.text s]
  | inline => [inline]

def tagsOf : Inline → List String
  | .text s => Tag.inText s.toList
  | _ => []

/-- Content in its order, cross-references apart, with the tags inside of it and its own. -/
def finish (out : List Inline) (inner : List String) : List Inline × List String :=
  (out.reverse.flatMap withCrossRefs, inner ++ out.reverse.flatMap tagsOf)

mutual

/-- Puts a span behind other content, which is the last one first; the tags are those inside it. -/
def Span.push (out : List Inline) : Span → List Inline × List String
  | .text content => (pushText content out, [])
  | .emphasis strong children =>
    let (children, tags) := Span.inlines children
    (.emphasis strong children :: out, tags)
  | .strikethrough children =>
    let (children, tags) := Span.inlines children
    (.strikethrough children :: out, tags)
  | .code content => (.code (String.ofList content) :: out, [])
  | .link url title children =>
    let (children, tags) := Span.inlines children
    (Markdown.link url title children :: out, tags)
  | .image url title children =>
    let shown := String.ofList (Span.plainTexts children)
    (.image (String.ofList url) shown (nonEmpty? title) :: out, [])
  | .crossRef url label =>
    let (embed, out) := takeEmbedMark out
    (.crossRef (Markdown.crossRef url label embed) :: out, [])
  | .math display content => (.math display (String.ofList content) :: out, [])
  | .html content => (.raw (String.ofList content) :: out, [])
  | .softBreak => (.softBreak :: out, [])
  | .lineBreak => (.lineBreak :: out, [])

def Span.pushAll (out : List Inline) : List Span → List Inline × List String
  | [] => (out, [])
  | span :: spans =>
    let (out, tags) := span.push out
    let (out, more) := Span.pushAll out spans
    (out, tags ++ more)

/-- The inline content of spans and the tags in it. -/
def Span.inlines (spans : List Span) : List Inline × List String :=
  let (out, tags) := Span.pushAll [] spans
  finish out tags

end

/-- The spans of a text, with the mail addresses in it as links. -/
def spans (refs : References) (content : List Char) : List Span :=
  Autolink.inSpans (Span.read refs content)

def content (refs : References) (cs : List Char) : List Inline × List String :=
  Span.inlines (spans refs cs)

/-! ### Blocks -/

/-- The box at the start of an item, whether it is checked, and the text behind it. -/
def task? (cs : List Char) : Option (Bool × List Char) :=
  match cs.dropWhile Text.isSpace with
  | '[' :: c :: ']' :: rest =>
    if [' ', 'x', 'X'].contains c && rest.head?.all Text.isSpace then some (c != ' ', rest.drop 1)
    else none
  | _ => none

/-- The content of the paragraph that begins an item. -/
def itemContent (refs : References) (cs : List Char) : List Inline × List String :=
  match Span.read refs cs with
  | .text first :: others =>
    match task? first with
    | some (checked, rest) =>
      let (inlines, tags) := Span.inlines (Autolink.inSpans (.text rest :: others))
      (.checkbox checked :: inlines, tags)
    | none => content refs cs
  | _ => content refs cs

def row (refs : References) (cells : List (List Char)) : Markup.Row × List String :=
  let read := cells.map (content refs)
  (read.map Prod.fst, read.flatMap Prod.snd)

/-- The first word behind a fence. -/
def language? (info : List Char) : Option String := (Text.words info).head?.map String.ofList

mutual

/-- The node of a block; the first block of an item may begin with a box. -/
def Block.node (refs : References) (inItem : Bool) : Block → Node × List String
  | .heading level cs =>
    let (inlines, tags) := content refs cs
    (.heading level inlines, tags)
  | .paragraph cs =>
    let (inlines, tags) := if inItem then itemContent refs cs else content refs cs
    (.paragraph inlines, tags)
  | .list bullet items =>
    let (items, tags) := Block.itemNodes refs items
    (.list bullet.isOrdered bullet.start items, tags)
  | .quote children =>
    let (nodes, tags) := Block.nodes refs false children
    (.quote nodes, tags)
  | .code info literal => (.fencedCode (language? info) (String.ofList literal), [])
  | .rule => (.thematicBreak, [])
  | .table header rows =>
    let (header, tags) := row refs header
    let rows := rows.map (row refs)
    (.table (some header) (rows.map Prod.fst), tags ++ rows.flatMap Prod.snd)
  | .html cs => (.html (String.ofList cs), [])

def Block.nodes (refs : References) (inItem : Bool) : List Block → List Node × List String
  | [] => ([], [])
  | block :: blocks =>
    let (node, tags) := block.node refs inItem
    let (nodes, more) := Block.nodes refs false blocks
    (node :: nodes, tags ++ more)

def Block.itemNodes (refs : References) : List (List Block) → List (List Node) × List String
  | [] => ([], [])
  | item :: items =>
    let (nodes, tags) := Block.nodes refs true item
    let (more, others) := Block.itemNodes refs items
    (nodes :: more, tags ++ others)

end

/-! ### Texts -/

/-- What a text stands for: its document, and its tags, each at its first place. -/
structure Reading where
  document : Markup.Document
  tags : List String

def read (source : String) : Reading :=
  let (blocks, refs) := Outline.read source.toList
  let (document, tags) := Block.nodes refs false blocks
  { document, tags := tags.eraseDups }

end NoteBridge.Markdown
