import NoteBridge.Text.Search

/-!
Inline content as its source writes it.
-/

namespace NoteBridge.Markdown

inductive Span
  | text (content : List Char)
  | emphasis (strong : Bool) (children : List Span)
  | strikethrough (children : List Span)
  | code (content : List Char)
  | link (url title : List Char) (children : List Span)
  | image (url title : List Char) (children : List Span)
  | crossRef (url label : List Char)
  | math (display : Bool) (content : List Char)
  | html (content : List Char)
  | softBreak
  | lineBreak

instance : Inhabited Span := ⟨.softBreak⟩

namespace Span

/-- Puts a span before others; texts next to each other become one. -/
def consJoining : Span → List Span → List Span
  | text a, text b :: spans => text (a ++ b) :: spans
  | span, spans => span :: spans

mutual

/-- Joins the texts inside a span. -/
def joined : Span → Span
  | emphasis strong children => emphasis strong (joinTexts children)
  | strikethrough children => strikethrough (joinTexts children)
  | link url title children => link url title (joinTexts children)
  | image url title children => image url title (joinTexts children)
  | span => span

/-- Joins texts next to each other, at every depth. -/
def joinTexts : List Span → List Span
  | [] => []
  | span :: spans => consJoining span.joined (joinTexts spans)

end

mutual

/-- The text of a span, its line ends being spaces. -/
def plainText : Span → List Char
  | text content | code content => content
  | emphasis _ children | strikethrough children | link _ _ children | image _ _ children =>
    plainTexts children
  | crossRef _ label => label
  | math _ _ | html _ => []
  | softBreak | lineBreak => [' ']

def plainTexts : List Span → List Char
  | [] => []
  | span :: spans => span.plainText ++ plainTexts spans

end

end Span
end NoteBridge.Markdown
