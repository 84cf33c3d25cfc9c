import NoteBridge.Text.Search

/-!
Hypertext inside Markdown: tags and the other constructs between angle brackets, and the lines at
which a block of hypertext begins and ends. A reader of a construct gives the text behind it.
-/

namespace NoteBridge.Markdown.Html

open Text

/-! ### Tags -/

def tagName? : List Char → Option (List Char)
  | [] => none
  | c :: cs => if c.isAlpha then some (cs.dropWhile fun d => d.isAlphanum || d == '-') else none

/-- A value without quotes ends before any of these. -/
def endsBareValue (c : Char) : Bool :=
  isSpace c || ['\"', '\'', '=', '<', '>', '\x60'].contains c

def quoted? (quote : Char) (cs : List Char) : Option (List Char) :=
  match cs.dropWhile (· != quote) with
  | _ :: rest => some rest
  | [] => none

def value? (cs : List Char) : Option (List Char) :=
  match cs with
  | '\"' :: rest => quoted? '\"' rest
  | '\'' :: rest => quoted? '\'' rest
  | c :: rest => if endsBareValue c then none else some (rest.dropWhile (!endsBareValue ·))
  | [] => none

/-- Behind an equals sign and a value, if they are there. -/
def afterValue (cs : List Char) : List Char :=
  match cs.dropWhile isSpace with
  | '=' :: rest => (value? (rest.dropWhile isSpace)).getD cs
  | _ => cs

def startsAttribute (c : Char) : Bool := c.isAlpha || c == '_' || c == ':'

def inAttribute (c : Char) : Bool := c.isAlphanum || [':', '.', '_', '-'].contains c

def attribute? (cs : List Char) : Option (List Char) :=
  match cs with
  | [] => none
  | first :: _ =>
    match cs.dropWhile isSpace with
    | c :: rest =>
      if isSpace first && startsAttribute c then some (afterValue (rest.dropWhile inAttribute))
      else none
    | [] => none

/-- Behind all attributes. -/
def attributes (cs : List Char) : List Char :=
  match attribute? cs with
  | some rest => if rest.length < cs.length then attributes rest else cs
  | none => cs
termination_by cs.length

/-- An opening tag, from behind its angle bracket. -/
def openingTag? (cs : List Char) : Option (List Char) := do
  match (attributes (← tagName? cs)).dropWhile isSpace with
  | '>' :: rest | '/' :: '>' :: rest => some rest
  | _ => none

/-- A closing tag, from behind its angle bracket. -/
def closingTag? : List Char → Option (List Char)
  | '/' :: cs => do
    match (← tagName? cs).dropWhile isSpace with
    | '>' :: rest => some rest
    | _ => none
  | _ => none

def tag? (cs : List Char) : Option (List Char) := openingTag? cs <|> closingTag? cs

/-! ### Other constructs -/

/-- The end of a comment. A hyphen is read together with the character after it, two hyphens with
the character after them. -/
def commentEnd? : List Char → Option (List Char)
  | '-' :: '-' :: '>' :: rest => some rest
  | '-' :: '-' :: _ :: rest => commentEnd? rest
  | '-' :: c :: rest => if c = '-' then none else commentEnd? rest
  | c :: rest => if c = '-' then none else commentEnd? rest
  | [] => none

/-- A comment, from behind its first two hyphens. -/
def comment? : List Char → Option (List Char)
  | '>' :: rest | '-' :: '>' :: rest => some rest
  | cs => commentEnd? cs

/-- The end of a character data section. A bracket is read together with the character after it,
two brackets with the character after them. -/
def sectionEnd? : List Char → Option (List Char)
  | ']' :: ']' :: '>' :: rest => some rest
  | ']' :: ']' :: _ :: rest => sectionEnd? rest
  | ']' :: c :: rest => if c = ']' then none else sectionEnd? rest
  | c :: rest => if c = ']' then none else sectionEnd? rest
  | [] => none

/-- The end of a processing instruction. A question mark is read together with the character after
it. -/
def instructionEnd? : List Char → Option (List Char)
  | '?' :: '>' :: rest => some rest
  | '?' :: _ :: rest => instructionEnd? rest
  | c :: rest => if c = '?' then none else instructionEnd? rest
  | [] => none

/-- A declaration, from behind its exclamation mark: a name in capitals, and anything behind a
space up to the end. -/
def declaration? (cs : List Char) : Option (List Char) :=
  match cs.dropWhile Char.isUpper with
  | c :: rest =>
    if cs.head?.any Char.isUpper && isSpace c then
      match rest.dropWhile (· != '>') with
      | _ :: rest => some rest
      | [] => none
    else none
  | [] => none

/-- Behind the mark of a section of character data, in any case. -/
def sectionStart? (cs : List Char) : Option (List Char) :=
  if "[cdata[".toList.isPrefixOf (toAsciiLower cs) then some (cs.drop 7) else none

/-! ### Blocks -/

/-- Blocks of hypertext differ in what ends them. -/
inductive BlockKind
  | script
  | comment
  | instruction
  | declaration
  | characterData
  | element
  | tag
deriving DecidableEq

/-- Elements whose content is kept as it is. -/
def scriptNames : List String := ["script", "pre", "textarea", "style"]

/-- Elements that begin a block. -/
def blockNames : List String :=
  ["address", "article", "aside", "base", "basefont", "blockquote", "body", "caption", "center",
    "col", "colgroup", "dd", "details", "dialog", "dir", "div", "dl", "dt", "fieldset",
    "figcaption", "figure", "footer", "form", "frame", "frameset", "h1", "h2", "h3", "h4", "h5",
    "h6", "head", "header", "hr", "html", "iframe", "legend", "li", "link", "main", "menu",
    "menuitem", "nav", "noframes", "ol", "optgroup", "option", "p", "param", "search", "section",
    "summary", "table", "tbody", "td", "tfoot", "th", "thead", "title", "tr", "track", "ul"]

/-- The name at the start of a text in small letters, and what follows it. -/
def nameAt (cs : List Char) : String × List Char :=
  (String.ofList (toAsciiLower (cs.takeWhile Char.isAlphanum)), cs.dropWhile Char.isAlphanum)

/-- Whether a name is over: at a space, at the end of the line or of the tag. -/
def endsName : List Char → Bool
  | [] => true
  | c :: _ => isSpace c || c == '>'

def startsScript (cs : List Char) : Bool :=
  let (name, rest) := nameAt cs
  scriptNames.contains name && endsName rest

def startsElement (cs : List Char) : Bool :=
  let (name, rest) := nameAt (match cs with | '/' :: rest => rest | _ => cs)
  blockNames.contains name && (endsName rest || ['/', '>'].isPrefixOf rest)

/-- The kind of block that a line begins, whatever stands before it. -/
def blockStart? : List Char → Option BlockKind
  | '<' :: '!' :: '-' :: '-' :: _ => some .comment
  | '<' :: '?' :: _ => some .instruction
  | '<' :: '!' :: c :: rest =>
    if c.isUpper then some .declaration
    else if (sectionStart? (c :: rest)).isSome then some .characterData
    else none
  | '<' :: cs =>
    if startsScript cs then some .script
    else if startsElement cs then some .element
    else none
  | _ => none

/-- Whether a line holds one tag and nothing else. Such a line begins a block, but not inside a
paragraph. -/
def isTagLine : List Char → Bool
  | '<' :: cs =>
    match tag? cs with
    | some rest => rest.all fun c => isSpaceOrTab c || c == '\x0c'
    | none => false
  | _ => false

def holds (text : String) (line : List Char) : Bool := (cut? text.toList line).isSome

/-- Whether a block ends with this line. -/
def BlockKind.endsWith (line : List Char) : BlockKind → Bool
  | script => scriptNames.any fun name => holds ("</" ++ name ++ ">") (toAsciiLower line)
  | comment => holds "-->" line
  | instruction => holds "?>" line
  | declaration => holds ">" line
  | characterData => holds "]]>" line
  | element | tag => false

/-- Whether a blank line ends a block. -/
def BlockKind.endsAtBlank : BlockKind → Bool
  | element | tag => true
  | _ => false

end NoteBridge.Markdown.Html
