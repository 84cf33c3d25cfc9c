import NoteBridge.Text.Search

/-!
A place in a text of YAML, and what may stand there. Lines end with a line feed, a carriage return,
both, or one of the three line ends beyond ASCII; a carriage return and line feed are one end.
-/

namespace NoteBridge.Yaml

structure Place where
  line : Nat := 0
  column : Nat := 0
  index : Nat := 0
  rest : List Char

def isBreak (c : Char) : Bool := ['\n', '\r', '\x85', '\u2028', '\u2029'].contains c

def isBlank (c : Char) : Bool := c == ' ' || c == '\t'

/-- Whether a word ends before these characters: at a blank, at the end of the line or of all. -/
def endsWord : List Char → Bool
  | [] => true
  | c :: _ => isBlank c || isBreak c

/-- How a line end is kept in content. -/
def breakText (c : Char) : Char := if c = '\u2028' ∨ c = '\u2029' then c else '\n'

/-- Characters that a text may hold. -/
def isAllowed (c : Char) : Bool :=
  c == '\t' || c == '\n' || c == '\r' || c == '\x85' || (' ' ≤ c && c ≤ '~') ||
    (0xA0 ≤ c.toNat && c.toNat != 0xFFFE && c.toNat != 0xFFFF)

/-- The mark of the order of bytes. -/
def orderMark : Char := '\uFEFF'

namespace Place

def skip (n : Nat) (p : Place) : Place :=
  { p with column := p.column + n, index := p.index + n, rest := p.rest.drop n }

/-- Behind the line end that is here. -/
def skipBreak (p : Place) : Place :=
  let n := if ['\r', '\n'].isPrefixOf p.rest then 2 else 1
  { line := p.line + 1, column := 0, index := p.index + n, rest := p.rest.drop n }

def skipWhile (f : Char → Bool) (p : Place) : Place := p.skip (p.rest.takeWhile f).length

/-- Behind a mark of the order of bytes, if one begins the line here. -/
def skipOrderMark (p : Place) : Place :=
  if p.column = 0 ∧ p.rest.head? = some orderMark then p.skip 1 else p

/-- Behind a comment, if one begins here. -/
def skipComment (p : Place) : Place :=
  if p.rest.head? = some '#' then p.skipWhile (!isBreak ·) else p

/-- Whether three of these characters stand alone at the start of a line. -/
def isMarker (c : Char) (p : Place) : Bool :=
  p.column == 0 && [c, c, c].isPrefixOf p.rest && endsWord (p.rest.drop 3)

/-- Whether a document begins or ends here. -/
def atDocument (p : Place) : Bool := p.isMarker '-' || p.isMarker '.'

def startsWith (c : Char) (p : Place) : Bool := p.rest.head? == some c

end Place

/-! ### Gaps -/

/-- The blanks between two words of a scalar: spaces on one line, or line ends, the first one being
none where a backslash hides it. -/
inductive Gap
  | blanks (text : List Char)
  | breaks (first : Option Char) (more : List Char)

namespace Gap

/-- What a gap stands for: one line end is a space, more of them are one less. -/
def text : Gap → List Char
  | blanks text => text
  | breaks (some '\n') [] => [' ']
  | breaks (some '\n') more => more
  | breaks (some c) more => c :: more
  | breaks none more => more

def isBreaks : Gap → Bool
  | blanks _ => false
  | breaks _ _ => true

def addBlank (c : Char) : Gap → Gap
  | blanks text => blanks (text ++ [c])
  | gap => gap

def addBreak (c : Char) : Gap → Gap
  | blanks _ => breaks (some (breakText c)) []
  | breaks first more => breaks first (more ++ [breakText c])

/-- Reads blanks and line ends on. A tab may not stand where indentation of `indent` columns is
wanted. -/
def read? (indent : Nat) (gap : Gap) (p : Place) : Option (Gap × Place) :=
  match p.rest with
  | [] => some (gap, p)
  | c :: _ =>
    let next := if isBreak c then p.skipBreak else p.skip 1
    if next.rest.length < p.rest.length then
      if isBreak c then (gap.addBreak c).read? indent next
      else if isBlank c then
        if c = '\t' ∧ gap.isBreaks ∧ p.column < indent then none
        else (gap.addBlank c).read? indent next
      else some (gap, p)
    else some (gap, p)
termination_by p.rest.length

end Gap
end NoteBridge.Yaml
