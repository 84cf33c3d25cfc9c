import NoteBridge.Markdown.Reference
import NoteBridge.Markdown.Span

/-!
What follows the text of a link and makes it one: a target in parentheses, a label in brackets, or
nothing, the text then being the label. Also links between notes, in double brackets.
-/

namespace NoteBridge.Markdown.Link

open Text

/-- Behind the closing parenthesis, with spaces before it. -/
def closed? (cs : List Char) : Option (List Char) :=
  match cs.dropWhile isSpace with
  | ')' :: rest => some rest
  | _ => none

/-- A title needs a space before it. -/
def titled (cs : List Char) : List Char × List Char :=
  let next := cs.dropWhile isSpace
  if next.length < cs.length then (title? next).getD ([], next) else ([], cs)

/-- A target in parentheses. -/
def inline? : List Char → Option (Target × List Char)
  | '(' :: cs => do
    let (url, rest) ← destination? (cs.dropWhile isSpace)
    let (title, rest) := titled rest
    let rest ← closed? rest
    some (Target.ofParts url title, rest)
  | _ => none

/-- A target by its label. Without a label, or with an empty one, the label is the text of the link,
unless that has a bracket in it. -/
def referenced? (refs : References) (content : List Char) (hasBracket : Bool) (cs : List Char) :
    Option (Target × List Char) :=
  let byContent (rest : List Char) :=
    if hasBracket then none else (refs.find? (labelKey content)).map fun target => (target, rest)
  match label? cs with
  | none => byContent cs
  | some ([], rest) => byContent rest
  | some (label, rest) => (refs.find? (labelKey label)).map fun target => (target, rest)

def target? (refs : References) (content : List Char) (hasBracket : Bool) (cs : List Char) :
    Option (Target × List Char) :=
  inline? cs <|> referenced? refs content hasBracket cs

/-! ### Links between notes -/

/-- One side of a link between notes. -/
def component? (cs : List Char) : Option (List Char × List Char) :=
  let (content, rest) := untilBare (fun c => c == '[' || c == ']' || c == '|') cs
  if byteLength content ≤ labelLimit then some (literal (trimSpacing content), rest) else none

/-- A link between notes, from behind its first bracket on: the note, and what is shown for it. -/
def crossRef? : List Char → Option (Span × List Char)
  | '[' :: cs => do
    let (url, rest) ← component? cs
    match rest with
    | ']' :: ']' :: rest => some (.crossRef url url, rest)
    | '|' :: rest =>
      match ← component? rest with
      | (label, ']' :: ']' :: rest) => some (.crossRef url label, rest)
      | _ => none
    | _ => none
  | _ => none

end NoteBridge.Markdown.Link
