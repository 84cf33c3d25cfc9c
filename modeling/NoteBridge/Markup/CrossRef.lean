import NoteBridge.Text.Search

/-!
Cross-references between notes, written `[[target#heading|label]]`. The label starts at the first
bar and the heading at the first number sign before it; an empty one is none.
-/

namespace NoteBridge.Markup

structure CrossRef where
  target : String
  heading : Option String := none
  label : Option String := none
  embed : Bool := false
deriving DecidableEq, Repr

namespace CrossRef

/-- The name a reader sees. -/
def shown (ref : CrossRef) : String := ref.label.getD ref.target

def nonEmpty? (cs : List Char) : Option String :=
  if cs.isEmpty then none else some (String.ofList cs)

/-- The text before the first `mark`, and the trimmed text after it if there is one. -/
def cutAt (mark : Char) (cs : List Char) : List Char × Option String :=
  match Text.cut? [mark] cs with
  | some (before, after) => (before, nonEmpty? (Text.trim after))
  | none => (cs, none)

def parseChars (cs : List Char) (embed : Bool) : CrossRef :=
  let (place, label) := cutAt '|' cs
  let (target, heading) := cutAt '#' place
  { target := String.ofList (Text.trim target), heading, label, embed }

/-- Reads the text between the brackets. -/
def parse (inner : String) (embed : Bool) : CrossRef := parseChars inner.toList embed

def imageEndings : List String :=
  [".png", ".jpg", ".jpeg", ".gif", ".webp", ".svg", ".bmp", ".avif"]

/-- Whether the target is an image file, by its name. -/
def isImageTarget (target : String) : Bool :=
  let lower := Text.toAsciiLower target.toList
  imageEndings.any fun ending => Text.endsWith ending.toList lower

end CrossRef
end NoteBridge.Markup
