import NoteBridge.Json.Printer
import NoteBridge.Yaml.Place
import NoteBridge.Yaml.Plain

/-!
How a text is written as a scalar. It is plain where that reads back as the same text, in single
quotes where only the meaning has to be kept off, a block of lines where it has line ends, and in
double quotes where it holds what needs an escape.
-/

namespace NoteBridge.Yaml.Scalar

inductive Style
  | plain
  | single
  | double
  | block
deriving DecidableEq

/-- Characters that are written as they are. -/
def isPrintable (c : Char) : Bool :=
  c == '\n' || (' ' ≤ c && c ≤ '~') ||
    (0xA0 ≤ c.toNat && c != '\uFEFF' && c.toNat != 0xFFFE && c.toNat != 0xFFFF)

def endsWithBlank (cs : List Char) : Bool := cs.getLast? == some ' '

/-- Whether one kind of character directly precedes another. -/
def hasPair (first second : Char → Bool) : List Char → Bool
  | c :: d :: cs => (first c && second d) || hasPair first second (d :: cs)
  | _ => false

def isSpace (c : Char) : Bool := c == ' '

/-- Whether the text cannot be written without escapes. -/
def needsEscapes (cs : List Char) : Bool :=
  cs.any (!isPrintable ·) || hasPair isSpace isBreak cs

/-- Characters that mean something else at the start of a plain text. -/
def startMarks : List Char :=
  ['#', ',', '[', ']', '\x7b', '\x7d', '&', '*', '!', '|', '>', '\'', '\"', '%', '@', '\x60']

/-- Whether the start of the text has a meaning of its own. -/
def hasStartMark (cs : List Char) : Bool :=
  match cs with
  | [] => false
  | c :: rest =>
    startMarks.contains c || (['?', ':', '-'].contains c && endsWord rest) ||
      ['-', '-', '-'].isPrefixOf cs || ['.', '.', '.'].isPrefixOf cs

/-- Whether a colon before a blank, or a number sign behind one, stands behind the start. -/
def hasInnerMark : List Char → Bool
  | c :: d :: cs =>
    (d == ':' && endsWord cs) || (d == '#' && endsWord [c]) || hasInnerMark (d :: cs)
  | _ => false

def isEdge (c : Char) : Bool := isSpace c || isBreak c

/-- Whether the text can stand without quotes. -/
def canBePlain (cs : List Char) : Bool :=
  !(cs.head?.any isEdge || cs.getLast?.any isEdge || cs.any isBreak || needsEscapes cs ||
    hasStartMark cs || hasInnerMark cs)

def canBeSingle (cs : List Char) : Bool := !(hasPair isBreak isSpace cs || needsEscapes cs)

def canBeBlock (cs : List Char) : Bool := !(endsWithBlank cs || needsEscapes cs)

/-- Whether a plain text would be read as something else than text. -/
def isAmbiguous (cs : List Char) : Bool :=
  Plain.isZeroPadded cs ||
    match Plain.ofText cs with
    | .text => false
    | _ => true

def style (cs : List Char) : Style :=
  if cs.contains '\n' then if canBeBlock cs then .block else .double
  else if !isAmbiguous cs && canBePlain cs then .plain
  else if canBeSingle cs then .single
  else .double

/-! ### Writing -/

def indentation (n : Nat) : List Char := List.replicate n ' '

/-- Lines behind line ends, each indented unless it is empty. -/
def indentLines (indent : Nat) (behindBreak : Bool) : List Char → List Char
  | [] => []
  | c :: cs =>
    if isBreak c then c :: indentLines indent true cs
    else
      (if behindBreak then indentation indent else []) ++ c :: indentLines indent false cs

/-- What tells the indentation of a block whose first line does not show it. -/
def indentHint (cs : List Char) : List Char := if cs.head?.any isEdge then ['2'] else []

/-- What tells the line ends that a block keeps at its end: none, one, or more of them. -/
def chompHint (cs : List Char) : List Char :=
  match cs.reverse with
  | [] => ['-']
  | [c] => if isBreak c then ['+'] else ['-']
  | c :: d :: _ => if !isBreak c then ['-'] else if isBreak d then ['+'] else []

def block (indent : Nat) (cs : List Char) : List Char :=
  '|' :: indentHint cs ++ chompHint cs ++ '\n' :: indentLines indent true cs

def single (indent : Nat) (cs : List Char) : List Char :=
  let inner := indentLines indent false (Text.replaceChar '\'' ['\'', '\''] cs)
  '\'' :: inner ++ (if cs.getLast?.any isBreak then indentation indent else []) ++ ['\'']

def letters : List (Char × Char) :=
  [('\x00', '0'), ('\x07', 'a'), ('\x08', 'b'), ('\t', 't'), ('\n', 'n'), ('\x0b', 'v'),
    ('\x0c', 'f'), ('\r', 'r'), ('\x1b', 'e'), ('\"', '\"'), ('\\', '\\'), ('\x85', 'N'),
    ('\xa0', '_'), ('\u2028', 'L'), ('\u2029', 'P')]

/-- Hexadecimal digits, at least `width` of them. -/
def hexadecimal (width : Nat) (n : Nat) : List Char :=
  let digits := (Nat.toDigits 16 n).map Char.toUpper
  List.replicate (width - digits.length) '0' ++ digits

def escape (c : Char) : List Char :=
  if isPrintable c && !isBreak c && c != '\"' && c != '\\' then [c]
  else
    match letters.lookup c with
    | some letter => ['\\', letter]
    | none =>
      let n := c.toNat
      if n ≤ 0xFF then '\\' :: 'x' :: hexadecimal 2 n
      else if n ≤ 0xFFFF then '\\' :: 'u' :: hexadecimal 4 n
      else '\\' :: 'U' :: hexadecimal 8 n

def double (cs : List Char) : List Char := '\"' :: cs.flatMap escape ++ ['\"']

/-- A text as a scalar whose further lines are indented. -/
def write (indent : Nat) (cs : List Char) : List Char :=
  match style cs with
  | .plain => cs
  | .single => single indent cs
  | .double => double cs
  | .block => block indent cs

/-- The longest key, in bytes, that needs no mark of its own. -/
def keyLimit : Nat := 128

/-- Whether a key can stand on the line of its value. -/
def isSimpleKey (cs : List Char) : Bool :=
  !cs.any isBreak && Text.byteLength cs ≤ keyLimit

end NoteBridge.Yaml.Scalar
