import NoteBridge.Number.Reader
import NoteBridge.Yaml.Place

/-!
The texts of scalars: plain, in quotes, and as blocks of lines. Lines of the first two are folded,
so that a single line end becomes a space. Every reader gives the content and the place behind it,
or nothing for a text that is malformed.
-/

namespace NoteBridge.Yaml

/-! ### Plain text -/

def isFlowMark (c : Char) : Bool := [',', '[', ']', '\x7b', '\x7d'].contains c

/-- Whether plain text ends before these characters. -/
def endsPlain (inFlow : Bool) : List Char → Bool
  | [] => true
  | c :: rest => (c == ':' && endsWord rest) || (inFlow && isFlowMark c)

/-- The characters of plain text up to a blank. In a flow a colon may not stand before its marks. -/
def plainWord? (inFlow : Bool) : List Char → Option (List Char)
  | [] => some []
  | c :: rest =>
    if isBlank c || isBreak c then some []
    else if inFlow && c == ':' && rest.head?.any (fun d => isFlowMark d || d == '?') then none
    else if endsPlain inFlow (c :: rest) then some []
    else (plainWord? inFlow rest).map (c :: ·)

/-- Reads plain text behind `content`, with a gap between the two. Outside of a flow its lines are
indented by `indent` columns. Tells also whether a line end stands before the place. -/
def plain? (indent : Nat) (inFlow : Bool) (content : List Char) (gap : Gap) (p : Place) :
    Option (List Char × Place × Bool) :=
  if p.atDocument || p.startsWith '#' then some (content, p, gap.isBreaks)
  else do
    let word ← plainWord? inFlow p.rest
    let (content, gap) :=
      if word.isEmpty then (content, gap) else (content ++ gap.text ++ word, .blanks [])
    let behind := p.skip word.length
    if !endsWord behind.rest || behind.rest.isEmpty then some (content, behind, gap.isBreaks)
    else
      let (gap, next) ← gap.read? indent behind
      if !inFlow && next.column < indent then some (content, next, gap.isBreaks)
      else if next.rest.length < p.rest.length then plain? indent inFlow content gap next
      else some (content, next, gap.isBreaks)
termination_by p.rest.length

/-! ### Quoted text -/

/-- The characters that a letter behind a backslash stands for. -/
def escapes : List (Char × Char) :=
  [('0', '\x00'), ('a', '\x07'), ('b', '\x08'), ('t', '\t'), ('\t', '\t'), ('n', '\n'),
    ('v', '\x0b'), ('f', '\x0c'), ('r', '\r'), ('e', '\x1b'), (' ', ' '), ('\"', '\"'), ('/', '/'),
    ('\\', '\\'), ('N', '\x85'), ('_', '\xa0'), ('L', '\u2028'), ('P', '\u2029')]

/-- How many hexadecimal digits follow a letter behind a backslash. -/
def escapeDigits : List (Char × Nat) := [('x', 2), ('u', 4), ('U', 8)]

/-- The character of an escape and the number of its characters, from behind the backslash. -/
def escape? : List Char → Option (Char × Nat)
  | [] => none
  | c :: rest =>
    match escapes.lookup c, escapeDigits.lookup c with
    | some d, _ => some (d, 1)
    | none, some n => do
      let digits := rest.take n
      let code ← Number.inBase? 16 digits
      if digits.length = n ∧ (code < 0xD800 ∨ 0xDFFF < code) ∧ code ≤ 0x10FFFF then
        some (Char.ofNat code, n + 1)
      else none
    | none, none => none

/-- One step inside quotes. -/
inductive QuotedStep
  | closing
  | text (content : List Char) (length : Nat)
  | gap (gap : Gap) (start : Place)

/-- What comes next in a quoted text. -/
def quotedStep? (double : Bool) (p : Place) : Option QuotedStep :=
  match p.rest with
  | [] => none
  | c :: rest =>
    if p.atDocument then none
    else if isBlank c || isBreak c then some (.gap (.blanks []) p)
    else if double then
      if c = '\"' then some .closing
      else if c = '\\' then
        if rest.head?.any isBreak then some (.gap (.breaks none []) (p.skip 1).skipBreak)
        else (escape? rest).map fun (d, n) => .text [d] (n + 1)
      else some (.text [c] 1)
    else if c = '\'' then
      if rest.head? = some '\'' then some (.text ['\''] 2) else some .closing
    else some (.text [c] 1)

/-- Reads a quoted text on, from behind `content`. -/
def quoted? (double : Bool) (content : List Char) (p : Place) : Option (List Char × Place) := do
  match ← quotedStep? double p with
  | .closing => some (content, p.skip 1)
  | .text more n =>
    let next := p.skip n
    if next.rest.length < p.rest.length then quoted? double (content ++ more) next else none
  | .gap gap start =>
    let (gap, next) ← gap.read? 0 start
    if next.rest.length < p.rest.length then quoted? double (content ++ gap.text) next else none
termination_by p.rest.length

/-! ### Blocks of lines -/

/-- What a block keeps of the line ends after its last line. -/
inductive Chomping
  | strip
  | clip
  | keep
deriving DecidableEq

def chomping? (c : Char) : Option Chomping :=
  if c = '-' then some .strip else if c = '+' then some .keep else none

def indentMark? (c : Char) : Option Nat :=
  if '1' ≤ c ∧ c ≤ '9' then some (Number.digitValue c) else none

/-- The marks behind the sign of a block, in either order, and their number. -/
def blockMarks : List Char → Chomping × Option Nat × Nat
  | c :: d :: _ =>
    match chomping? c, indentMark? c with
    | some chomping, _ =>
      match indentMark? d with
      | some n => (chomping, some n, 2)
      | none => (chomping, none, 1)
    | none, some n =>
      match chomping? d with
      | some chomping => (chomping, some n, 2)
      | none => (.clip, some n, 1)
    | none, none => (.clip, none, 0)
  | [c] =>
    match chomping? c, indentMark? c with
    | some chomping, _ => (chomping, none, 1)
    | none, some n => (.clip, some n, 1)
    | none, none => (.clip, none, 0)
  | [] => (.clip, none, 0)

/-- Line ends and the indentation before the next line. Where the indentation is not known yet, all
spaces belong to it; `widest` is the largest seen. -/
def indentation? (indent : Option Nat) (widest : Nat) (breaks : List Char) (p : Place) :
    Option (List Char × Nat × Place) :=
  let spaces := (p.rest.takeWhile (· == ' ')).length
  let taken := match indent with
    | none => spaces
    | some n => min spaces (n - p.column)
  let behind := p.skip taken
  let widest := max widest behind.column
  match behind.rest with
  | [] => some (breaks, widest, behind)
  | c :: _ =>
    if c = '\t' ∧ (indent.all fun n => behind.column < n) then none
    else if isBreak c then
      let next := behind.skipBreak
      if next.rest.length < p.rest.length then
        indentation? indent widest (breaks ++ [breakText c]) next
      else none
    else some (breaks, widest, behind)
termination_by p.rest.length

/-- The lines read so far: their text, the line end behind it, further line ends, and whether the
last line began with a blank. -/
structure Lines where
  text : List Char := []
  last : List Char := []
  more : List Char := []
  indented : Bool := false

/-- Adds a line. Folding makes a space of one line end between lines that begin with no blank. -/
def Lines.add (folded : Bool) (l : Lines) (line : List Char) (last : List Char) : Lines :=
  let indented := line.head?.any isBlank
  let joint :=
    if folded && l.last == ['\n'] && !l.indented && !indented then
      if l.more.isEmpty then [' '] else l.more
    else l.last ++ l.more
  { text := l.text ++ joint ++ line, last, indented }

def Lines.chomp (c : Chomping) (l : Lines) : List Char :=
  match c with
  | .strip => l.text
  | .clip => l.text ++ l.last
  | .keep => l.text ++ l.last ++ l.more

/-- Reads the lines of a block at the indentation. -/
def blockLines? (folded : Bool) (indent : Nat) (l : Lines) (p : Place) : Option (Lines × Place) :=
  if p.column ≠ indent ∨ p.rest.isEmpty then some (l, p)
  else
    let line := p.rest.takeWhile (!isBreak ·)
    let behind := p.skip line.length
    match behind.rest with
    | [] => some (l.add folded line [], behind)
    | c :: _ => do
      let l := l.add folded line [breakText c]
      let (more, _, next) ← indentation? (some indent) 0 [] behind.skipBreak
      if next.rest.length < p.rest.length then
        blockLines? folded indent { l with more } next
      else none
termination_by p.rest.length

/-- Reads a block from its sign on, inside of a collection at the indentation `parent`. -/
def block? (folded : Bool) (parent : Int) (p : Place) : Option (List Char × Place) := do
  let p := p.skip 1
  let (chomping, mark, n) := blockMarks p.rest
  let p := ((p.skip n).skipWhile isBlank).skipComment
  let start ← match p.rest with
    | [] => some p
    | c :: _ => if isBreak c then some p.skipBreak else none
  let given := mark.map fun n => if 0 ≤ parent then parent.toNat + n else n
  let (more, widest, start) ← indentation? given 0 [] start
  let indent := given.getD (max widest (max (parent + 1).toNat 1))
  let (lines, rest) ← blockLines? folded indent { more } start
  some (lines.chomp chomping, rest)

end NoteBridge.Yaml
