import NoteBridge.Page.Run
import NoteBridge.Render.Escape
import NoteBridge.Resolver

/-!
From runs to inline markup. The markers of a run nest in one order, from the inside: code,
underline, strikethrough, italic, bold, highlight, link. Blanks at the ends of a run stay outside
its markers.
-/

namespace NoteBridge.Render

open Page (Run RunKind Color Style)
open Text

/-- What rendering runs depends on: the names of pages, and the color that is a highlight. -/
structure RunContext where
  resolver : Resolver
  highlight : Color

def enclose (delimiter text : List Char) : List Char := delimiter ++ text ++ delimiter

def underlined (text : List Char) : List Char := "<u>".toList ++ text ++ "</u>".toList

def isHighlighted (context : RunContext) (style : Style) : Bool :=
  style.color == context.highlight && style.color != .default

/-- The markers of a style around a text, code apart. -/
def decorate (context : RunContext) (style : Style) (text : List Char) : List Char :=
  let text := if style.underline then underlined text else text
  let text := if style.strikethrough then enclose ['~', '~'] text else text
  let text := if style.italic then enclose ['*'] text else text
  let text := if style.bold then enclose ['*', '*'] text else text
  if isHighlighted context style then enclose ['=', '='] text else text

def linkTo (url : Option String) (text : List Char) : List Char :=
  match url with
  | some url => '[' :: text ++ "](".toList ++ url.toList ++ [')']
  | none => text

/-- How the content of a run becomes markup, told whether it stands at the start of a line. -/
abbrev Writing := Bool → List Char → List Char

def literally : Writing := fun _ text => text

/-- A run's markup from its content: the blanks at both ends, and in between the content in
writing, as code if the style says so, with the markers and the link around it. -/
def wrap (context : RunContext) (style : Style) (writing : Writing) (link : Option String)
    (lineStart : Bool) (content : List Char) : List Char :=
  let core := trim content
  if core.isEmpty then content
  else
    let leading := content.takeWhile isBlank
    let trailing := takeEndWhile isBlank content
    let text :=
      if style.code then codeSpan core else writing (lineStart || leading.contains '\n') core
    leading ++ linkTo link (decorate context style text) ++ trailing

/-- Red text in double brackets stands for a reference that did not resolve. -/
def isPlaceholder (run : Run) : Bool :=
  let core := trim run.chars
  run.style.color == .letters .red && !run.style.code && 4 < (String.ofList core).utf8ByteSize &&
    ['[', '['].isPrefixOf core && endsWith [']', ']'] core

/-- The reference that a mention is written as. The text shown is kept where it is not the name. -/
def mentionText (context : RunContext) (page : String) (shown : List Char) : List Char :=
  let inner := match context.resolver.name? page with
    | some name =>
      if !shown.isEmpty && name.toList != shown then name.toList ++ '|' :: shown else name.toList
    | none => shown
  "[[".toList ++ inner ++ "]]".toList

def renderRun (context : RunContext) (lineStart : Bool) (run : Run) : List Char :=
  match run.kind with
  | .equation => '$' :: trim run.chars ++ ['$']
  | .mention page =>
    wrap context run.style literally none lineStart (mentionText context page (trim run.chars))
  | .text none =>
    if isPlaceholder run then wrap context run.style literally none lineStart run.chars
    else wrap context run.style escape none lineStart run.chars
  | .text (some url) => wrap context run.style escape (some url) lineStart run.chars

/-- Where the next run stands after a text that was written at `lineStart`. -/
def endsLine (lineStart : Bool) (text : List Char) : Bool :=
  match text.getLast? with
  | none => lineStart
  | some c => c == '\n'

def renderRunsFrom (context : RunContext) (lineStart : Bool) : List Run → List Char
  | [] => []
  | run :: runs =>
    let text := renderRun context lineStart run
    text ++ renderRunsFrom context (endsLine lineStart text) runs

def renderRuns (context : RunContext) (runs : List Run) : List Char :=
  renderRunsFrom context true runs

end NoteBridge.Render
