import NoteBridge.Dict
import NoteBridge.Markdown.Literal
import NoteBridge.Text.Fold

/-!
Labels, destinations and titles of links, and the definitions that give a label its destination.
Labels are compared without regard to case and to the kind and number of their blanks; of several
definitions of a label the first one counts.
-/

namespace NoteBridge.Markdown

open Text

/-- Where a link leads, and its title. -/
structure Target where
  url : List Char
  title : List Char

abbrev References := Dict Target

/-! ### Parts of a link -/

/-- The most bytes in a label. -/
def labelLimit : Nat := 1000

/-- The text up to the first character that `stops` and no backslash escapes, and the rest that
begins with it. -/
def untilBare (stops : Char → Bool) : List Char → List Char × List Char
  | [] => ([], [])
  | ['\\'] => (['\\'], [])
  | '\\' :: c :: cs =>
    if isAsciiPunctuation c then
      let (taken, rest) := untilBare stops cs
      ('\\' :: c :: taken, rest)
    else
      let (taken, rest) := untilBare stops (c :: cs)
      ('\\' :: taken, rest)
  | c :: cs =>
    if stops c then ([], c :: cs)
    else
      let (taken, rest) := untilBare stops cs
      (c :: taken, rest)

/-- A label in brackets, and what follows it. -/
def label? : List Char → Option (List Char × List Char)
  | '[' :: cs =>
    match untilBare (fun c => c == '[' || c == ']') cs with
    | (label, ']' :: rest) =>
      if byteLength label ≤ labelLimit then some (trimSpacing label, rest) else none
    | _ => none
  | _ => none

/-- Blanks in a row become one space. -/
def collapse : List Char → List Char
  | [] => []
  | c :: cs =>
    if isBlank c then
      match collapse cs with
      | ' ' :: rest => ' ' :: rest
      | rest => ' ' :: rest
    else c :: collapse cs

/-- The form of a label under which it is looked up. -/
def labelKey (label : List Char) : String := String.ofList (fold (collapse (trimSpacing label)))

/-- The deepest nesting of parentheses in a destination without angle brackets. -/
def nestingLimit : Nat := 32

/-- A destination between angle brackets, from behind the first. A backslash hides the character
after it. -/
def enclosed? : List Char → Option (List Char × List Char)
  | '>' :: rest => some ([], rest)
  | '\\' :: c :: rest => (enclosed? rest).map fun (url, rest) => ('\\' :: c :: url, rest)
  | c :: rest =>
    if c = '\n' ∨ c = '<' then none
    else (enclosed? rest).map fun (url, rest) => (c :: url, rest)
  | [] => none

def isControl (c : Char) : Bool := c.toNat < 0x20 || c.toNat == 0x7F

/-- A destination without angle brackets: its parentheses are balanced, and a space, a control
character or a closing parenthesis of the surrounding ends it. -/
def bare? (depth : Nat) : List Char → Option (List Char × List Char)
  | [] => none
  | '\\' :: c :: cs =>
    if isAsciiPunctuation c then
      (bare? depth cs).map fun (url, rest) => ('\\' :: c :: url, rest)
    else (bare? depth (c :: cs)).map fun (url, rest) => ('\\' :: url, rest)
  | c :: cs =>
    let continued (depth : Nat) := (bare? depth cs).map fun (url, rest) => (c :: url, rest)
    if c = '(' then if depth < nestingLimit then continued (depth + 1) else none
    else if c = ')' then if depth = 0 then some ([], c :: cs) else continued (depth - 1)
    else if isSpace c || isControl c then if depth = 0 then some ([], c :: cs) else none
    else continued depth

/-- A destination and what follows it, which is never nothing. -/
def destination? : List Char → Option (List Char × List Char)
  | '<' :: cs => (enclosed? cs).filter fun (_, rest) => !rest.isEmpty
  | cs => bare? 0 cs

/-- A title ends at the first end mark that no backslash precedes, or else at the last one. -/
def titleEnd? (ends stops : Char → Bool) (escaped : Bool) :
    List Char → Option (List Char × List Char)
  | [] => none
  | c :: cs =>
    let continued :=
      (titleEnd? ends stops (c == '\\') cs).map fun (title, rest) => (c :: title, rest)
    if ends c then if escaped then continued <|> some ([], cs) else some ([], cs)
    else if stops c then if escaped then continued else none
    else continued

/-- A title in quotes or parentheses, and what follows it. -/
def title? : List Char → Option (List Char × List Char)
  | '\"' :: cs => titleEnd? (· == '\"') (fun _ => false) false cs
  | '\'' :: cs => titleEnd? (· == '\'') (fun _ => false) false cs
  | '(' :: cs => titleEnd? (· == ')') (· == '(') false cs
  | _ => none

def Target.ofParts (url title : List Char) : Target := ⟨literal (trimSpacing url), literal title⟩

/-! ### Definitions -/

def skipInLine (cs : List Char) : List Char := cs.dropWhile isSpaceOrTab

/-- Behind the end of the line, if nothing else is in the way. -/
def lineEnd? (cs : List Char) : Option (List Char) :=
  match skipInLine cs with
  | [] => some []
  | '\n' :: rest => some rest
  | _ => none

/-- Behind spaces with at most one end of a line among them. -/
def skipToNext (cs : List Char) : List Char :=
  match skipInLine cs with
  | '\n' :: rest => skipInLine rest
  | rest => rest

/-- A title after a destination has something between the two. -/
def titleAfter? (cs : List Char) : Option (List Char × List Char) :=
  let next := skipToNext cs
  if next.length < cs.length then title? next else none

/-- A definition at the start of a text: its label, its target and what follows it. A title must end
its line; where it does not, but begins a line, that line is text as well. -/
def definition? (cs : List Char) : Option (List Char × Target × List Char) := do
  let (label, rest) ← label? cs
  if label.isEmpty then none
  else
    match rest with
    | ':' :: rest =>
      let (url, rest) ← destination? (skipToNext rest)
      match titleAfter? rest with
      | some (title, behind) =>
        let next ← lineEnd? behind <|> lineEnd? rest
        some (label, Target.ofParts url title, next)
      | none => some (label, Target.ofParts url [], ← lineEnd? rest)
    | _ => none

/-- Takes the definitions at the start of a paragraph; the rest of it is text. -/
def References.take (refs : References) (cs : List Char) : References × List Char :=
  match definition? cs with
  | some (label, target, rest) =>
    let key := labelKey label
    let refs := if key.isEmpty || refs.contains key then refs else refs.insert key target
    if rest.length < cs.length then References.take refs rest else (refs, rest)
  | none => (refs, cs)
termination_by cs.length

end NoteBridge.Markdown
