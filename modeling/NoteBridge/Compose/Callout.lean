import NoteBridge.Markup.Tree
import NoteBridge.Text.Letter

/-!
The marker of a callout: the first line of a quote that begins with a name in brackets behind an
exclamation mark. A sign for folding may follow, and the rest of the line is the title.
-/

namespace NoteBridge.Compose

open Markup (Inline)
open Text

/-- The parts of a callout's first line, and the inline content after it. -/
structure CalloutMarker where
  name : List Char
  title : List Char
  body : List Inline

/-- The name and title of a marker line. A name begins with a word character and goes on with word
characters and hyphens. -/
def calloutLine? (line : List Char) : Option (List Char × List Char) :=
  match line with
  | '[' :: '!' :: c :: cs =>
    let isNameChar (c : Char) : Bool := isWord c || c == '-'
    if isWord c then
      match cs.dropWhile isNameChar with
      | ']' :: rest =>
        let rest := match rest with
          | '+' :: rest => rest
          | '-' :: rest => rest
          | rest => rest
        let title := trimStart rest
        if title.contains '\n' then none else some (c :: cs.takeWhile isNameChar, trim title)
      | _ => none
    else none
  | _ => none

def calloutMarker? (inlines : List Inline) : Option CalloutMarker :=
  let firstLine := inlines.takeWhile (!·.isBreak)
  let body := (inlines.dropWhile (!·.isBreak)).drop 1
  (calloutLine? (trim (Inline.plainCharsAll firstLine))).map fun (name, title) =>
    { name, title, body }

end NoteBridge.Compose
