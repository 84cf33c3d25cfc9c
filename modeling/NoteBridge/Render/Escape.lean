import NoteBridge.Text.Search

/-!
Escaping of literal text. Characters with a meaning inside a line are always escaped. Those with a
meaning at the start of a line only there: a number sign, a hyphen, a plus and an equals sign, and
the point or parenthesis that ends a number.
-/

namespace NoteBridge.Render

/-- Where the next character stands: whether only spaces and tabs lie between it and the start of
its line, and whether the digits before it go back there. -/
structure Position where
  lineStart : Bool
  ordinal : Bool := false
deriving DecidableEq, Repr

def isAlwaysEscaped (c : Char) : Bool :=
  c == '\\' || c == '*' || c == '_' || c == '[' || c == ']' || c == '\x60' || c == '<' ||
    c == '>' || c == '~' || c == '$'

def isLineMarker (c : Char) : Bool := c == '#' || c == '-' || c == '+' || c == '='

def isAsciiDigit (c : Char) : Bool := '0' ≤ c && c ≤ '9'

/-- Whether a character needs a backslash, given what stands behind it. -/
def needsEscape (p : Position) (c : Char) (next : Option Char) : Bool :=
  isAlwaysEscaped c || (isLineMarker c && p.lineStart) ||
    ((c == '.' || c == ')') && p.ordinal) || (c == '!' && next == some '[')

def Position.advance (p : Position) (c : Char) : Position :=
  { lineStart := c == '\n' || (p.lineStart && (c == ' ' || c == '\t'))
    ordinal := (p.lineStart || p.ordinal) && isAsciiDigit c }

def escapeFrom (p : Position) : List Char → List Char
  | [] => []
  | c :: cs =>
    let written := if needsEscape p c cs.head? then ['\\', c] else [c]
    written ++ escapeFrom (p.advance c) cs

/-- The text as inline markup; `lineStart` says whether it begins a line. -/
def escape (lineStart : Bool) (cs : List Char) : List Char := escapeFrom { lineStart } cs

/-- The length of the longest row of `c`, of which `current` lie at the start and `longest` were
seen before. -/
def longestRowFrom (c : Char) (longest current : Nat) : List Char → Nat
  | [] => longest
  | d :: cs =>
    if d = c then longestRowFrom c (max longest (current + 1)) (current + 1) cs
    else longestRowFrom c longest 0 cs

def longestRow (c : Char) (cs : List Char) : Nat := longestRowFrom c 0 0 cs

def tick : Char := '\x60'

/-- Backticks that fence code: at least three, and more than any row of them inside. -/
def fenceFor (content : List Char) : List Char :=
  List.replicate (max (longestRow tick content) 2 + 1) tick

/-- A code span. Content with backticks gets a longer delimiter and a space on both sides. -/
def codeSpan (content : List Char) : List Char :=
  match longestRow tick content with
  | 0 => tick :: content ++ [tick]
  | longest =>
    let delimiter := List.replicate (longest + 1) tick
    delimiter ++ ' ' :: content ++ ' ' :: delimiter

end NoteBridge.Render
