/-!
Blank characters and trimming. Blank means the White_Space property of the character standard; a
space in the narrow sense is one of the six blank characters of ASCII, two more than
`Char.isWhitespace` knows. Text is handled as a list of characters, so that every rule is a
recursion on the text itself.
-/

namespace NoteBridge.Text

/-- The White_Space property. -/
def isBlank (c : Char) : Bool :=
  let n := c.toNat
  (9 ≤ n && n ≤ 13) || n == 0x20 || n == 0x85 || n == 0xA0 || n == 0x1680 ||
    (0x2000 ≤ n && n ≤ 0x200A) || n == 0x2028 || n == 0x2029 || n == 0x202F || n == 0x205F ||
    n == 0x3000

/-- The blank characters of ASCII. -/
def isSpace (c : Char) : Bool := c == ' ' || ('\t' ≤ c && c ≤ '\r')

def isSpaceOrTab (c : Char) : Bool := c == ' ' || c == '\t'

/-- What separates words and lines: spaces, tabs and the ends of lines. -/
def isSpacing (c : Char) : Bool := isSpaceOrTab c || c == '\n' || c == '\r'

def dropEndWhile (p : Char → Bool) (cs : List Char) : List Char :=
  (cs.reverse.dropWhile p).reverse

def takeEndWhile (p : Char → Bool) (cs : List Char) : List Char :=
  (cs.reverse.takeWhile p).reverse

def trimStart (cs : List Char) : List Char := cs.dropWhile isBlank

def trimEnd (cs : List Char) : List Char := dropEndWhile isBlank cs

def trim (cs : List Char) : List Char := trimEnd (trimStart cs)

def trimSpacing (cs : List Char) : List Char := dropEndWhile isSpacing (cs.dropWhile isSpacing)

def allBlank (cs : List Char) : Bool := cs.all isBlank

/-- The length of a text in bytes. -/
def byteLength (cs : List Char) : Nat := cs.foldl (fun n c => n + c.utf8Size) 0

/-- Applies a rule on characters to a string. -/
def onString (f : List Char → List Char) (s : String) : String := String.ofList (f s.toList)

end NoteBridge.Text
