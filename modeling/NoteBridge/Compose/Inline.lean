import NoteBridge.Compose.Highlight
import NoteBridge.Markup.Tree
import NoteBridge.Options
import NoteBridge.Page.Run
import NoteBridge.Resolver
import NoteBridge.Url

/-!
From inline content to runs. Styling flows down the tree: each element adds one flag to what it
holds, and its neighbours never see it. A link marks the text runs inside it, over any link that
they already have.
-/

namespace NoteBridge.Compose

open Markup (Inline CrossRef)
open Page (Run Style)

/-- What composing depends on. -/
structure Context where
  options : Options
  resolver : Resolver

def textRuns (context : Context) (style : Style) (cs : List Char) : List Run :=
  (highlights cs).map fun (piece, highlighted) =>
    .text (String.ofList piece)
      (if highlighted then { style with color := context.options.highlight } else style)

/-- An image among other content keeps its text, and a link to it if it can be fetched. -/
def imageRun (style : Style) (url alt : String) : Run :=
  let shown := if alt.isEmpty then url else alt
  if Url.isRemote url then .linked shown url style else .text shown style

def placeholder (shown : String) : String := "[[" ++ shown ++ "]]"

/-- A reference to an image file shows its name. One that resolves mentions its page, any other is
written as the options say. -/
def crossRefRuns (context : Context) (style : Style) (ref : CrossRef) : List Run :=
  if ref.embed && CrossRef.isImageTarget ref.target then [.text ref.shown style]
  else
    match context.resolver.page? ref.target with
    | some page => [.mention ref.shown page style]
    | none =>
      match context.options.unresolved with
      | .placeholder => [.text (placeholder ref.shown) { style with color := .letters .red }]
      | .text => [.text ref.shown style]
      | .skip => []

def linkRun (url : String) (run : Run) : Run :=
  if run.isText then { run with kind := .text (some url) } else run

/-- The runs of a link from those of its content; a link that shows nothing shows its address. -/
def linkRuns (style : Style) (url : String) (runs : List Run) : List Run :=
  if runs.isEmpty then [.linked url url style] else runs.map (linkRun url)

mutual

def inlineRuns (context : Context) (style : Style) : Inline → List Run
  | .text content => textRuns context style content.toList
  | .emphasis true children => inlineRunsAll context { style with bold := true } children
  | .emphasis false children => inlineRunsAll context { style with italic := true } children
  | .strikethrough children => inlineRunsAll context { style with strikethrough := true } children
  | .code content => [.text content { style with code := true }]
  | .link url _ children => linkRuns style url (inlineRunsAll context style children)
  | .autolink url => [.linked url url style]
  | .image url alt _ => [imageRun style url alt]
  | .raw content => [.text content style]
  | .crossRef ref => crossRefRuns context style ref
  | .math _ literal => [.equation (Text.onString Text.trim literal) style]
  | .checkbox _ => []
  | .softBreak | .lineBreak => [.text "\n" style]

def inlineRunsAll (context : Context) (style : Style) : List Inline → List Run
  | [] => []
  | inline :: inlines => inlineRuns context style inline ++ inlineRunsAll context style inlines

end

/-- The runs of inline content as a page holds them: merged and none too long. -/
def compose (context : Context) (inlines : List Inline) (style : Style := {}) : List Run :=
  Page.boundRuns (Page.mergeRuns (inlineRunsAll context style inlines))

end NoteBridge.Compose
