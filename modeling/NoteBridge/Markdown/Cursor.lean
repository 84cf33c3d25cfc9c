import NoteBridge.Text.Blank

/-!
A place in a line. Columns are counted because a tab reaches to the next multiple of four: when a
container takes only some of a tab's columns, the others are owed as spaces.
-/

namespace NoteBridge.Markdown

open Text

structure Cursor where
  column : Nat := 0
  owed : Nat := 0
  rest : List Char

namespace Cursor

def tabStop : Nat := 4

/-- Columns from here to the next tab stop. -/
def toTabStop (column : Nat) : Nat := tabStop - column % tabStop

/-- Takes one column of a space or tab. -/
def skipColumn (c : Cursor) : Cursor :=
  match c.owed, c.rest with
  | owed + 1, rest => ⟨c.column + 1, owed, rest⟩
  | 0, ' ' :: rest => ⟨c.column + 1, 0, rest⟩
  | 0, '\t' :: rest => ⟨c.column + 1, toTabStop c.column - 1, rest⟩
  | 0, _ => c

def skipColumns : Nat → Cursor → Cursor
  | 0, c => c
  | n + 1, c => skipColumns n c.skipColumn

/-- Takes characters that are no tabs. -/
def skipChars (n : Nat) (c : Cursor) : Cursor := ⟨c.column + n, 0, c.rest.drop n⟩

/-- The column behind spaces and tabs, and the text there. -/
def passBlanks (column : Nat) : List Char → Nat × List Char
  | ' ' :: cs => passBlanks (column + 1) cs
  | '\t' :: cs => passBlanks (column + toTabStop column) cs
  | cs => (column, cs)

/-- Takes all spaces and tabs. -/
def skipBlanks (c : Cursor) : Cursor :=
  let (column, rest) := passBlanks (c.column + c.owed) c.rest
  ⟨column, 0, rest⟩

/-- The columns of the spaces and tabs here. -/
def indent (c : Cursor) : Nat := c.skipBlanks.column - c.column

/-- The characters of the spaces and tabs here, a tab that was begun being one. -/
def indentLength (c : Cursor) : Nat :=
  (if c.owed = 0 then 0 else 1) + (c.rest.takeWhile isSpaceOrTab).length

def isBlank (c : Cursor) : Bool := c.skipBlanks.rest.isEmpty

/-- What is left of the line, with its end. -/
def line (c : Cursor) : List Char := List.replicate c.owed ' ' ++ c.rest ++ ['\n']

/-- Whether the line is indented as far as code is. -/
def isIndented (c : Cursor) : Bool := tabStop ≤ c.indent

end Cursor
end NoteBridge.Markdown
