import NoteBridge.Text.Search

/-!
Rows of tables. Bars part the cells of a row; a bar behind a backslash belongs to its cell. The row
under the header consists of hyphens and colons.
-/

namespace NoteBridge.Markdown.TableRow

open Text

/-- Spaces inside a line. -/
def isLineSpace (c : Char) : Bool := isSpaceOrTab c || c == '\x0b' || c == '\x0c'

/-- The cell at the start of the text, and the rest, which begins with a bar or is empty. -/
def cellAt (escaped : Bool) : List Char → List Char × List Char
  | [] => ([], [])
  | c :: cs =>
    if c = '|' ∧ !escaped then ([], c :: cs)
    else
      let (cell, rest) := cellAt (c == '\\') cs
      (c :: cell, rest)

/-- Removes the backslashes in front of bars. -/
def freeBars : List Char → List Char
  | [] => []
  | [c] => [c]
  | c :: d :: cs => if c = '\\' ∧ d = '|' then freeBars (d :: cs) else c :: freeBars (d :: cs)

/-- The cells from here on. What follows the last bar is a cell only if it is not empty. -/
def cellsFrom (cs : List Char) : List (List Char) :=
  let (cell, rest) := cellAt false cs
  let content := trimSpacing (freeBars cell)
  match rest with
  | _ :: rest =>
    let next := rest.dropWhile isLineSpace
    if next.length < cs.length then content :: cellsFrom next else [content]
  | [] => if cell.isEmpty then [] else [content]
termination_by cs.length

/-- The cells of a line. A bar may stand before the first one. -/
def cells (cs : List Char) : List (List Char) :=
  match cs with
  | '|' :: rest => cellsFrom (rest.dropWhile isLineSpace)
  | _ => cellsFrom cs

/-- Hyphens with a colon or none on both sides. -/
def isRuleCell (cs : List Char) : Bool :=
  let inner := dropEndWhile isLineSpace (cs.dropWhile isLineSpace)
  let inner := match inner with | ':' :: rest => rest | _ => inner
  match inner.dropWhile (· == '-') with
  | [] | [':'] => inner.head? == some '-'
  | _ => false

/-- Whether the line has the form of a row under a header. -/
def isRule (cs : List Char) : Bool :=
  let pieces := splitWhere (· == '|') (match cs with | '|' :: rest => rest | _ => cs)
  match pieces.reverse with
  | last :: first :: others =>
    (first :: others).all isRuleCell && (isRuleCell last || last.all isLineSpace)
  | [piece] => isRuleCell piece
  | [] => false

/-- A row of exactly `width` cells. -/
def fit (width : Nat) (row : List (List Char)) : List (List Char) :=
  row.take width ++ List.replicate (width - row.length) []

end NoteBridge.Markdown.TableRow
