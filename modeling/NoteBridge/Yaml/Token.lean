import NoteBridge.Yaml.Text

/-!
The tokens of a text of YAML. Columns make the structure of blocks: where a deeper column begins a
collection a token opens it, and where a line goes back to an outer column tokens close what is
deeper. The key of a mapping has no mark of its own in front of it, so its token is put in when the
colon behind it is met.
-/

namespace NoteBridge.Yaml

inductive Token
  | version (major minor : Nat)
  | tagHandle (handle expansion : List Char)
  | documentStart
  | documentEnd
  | blockSequence
  | blockMapping
  | blockEnd
  | flowSequence
  | flowSequenceEnd
  | flowMapping
  | flowMappingEnd
  | blockEntry
  | flowEntry
  | key
  | value
  | reference (name : List Char)
  | anchor (name : List Char)
  | tag (handle suffix : List Char)
  | scalar (plain : Bool) (content : List Char)
deriving DecidableEq

/-- A place where a key may have begun, and the number of tokens before it. A required one is the
only thing that can begin there. -/
structure PossibleKey where
  required : Bool
  tokens : Nat
  place : Place

/-- The longest key that needs no mark, which must be on one line. -/
def keyLimit : Nat := 1024

def PossibleKey.isOver (p : Place) (k : PossibleKey) : Bool :=
  k.place.line < p.line || k.place.index + keyLimit < p.index

/-- The state of reading: the tokens, last one first, the column of the innermost block and those
around it, the possible key at the depth of the flow brackets and those outside of them. -/
structure Scanner where
  place : Place
  tokens : List Token := []
  indent : Int := -1
  outer : List Int := []
  keyAllowed : Bool := true
  key : Option PossibleKey := none
  outerKeys : List (Option PossibleKey) := []

namespace Scanner

def inFlow (s : Scanner) : Bool := !s.outerKeys.isEmpty

def column (s : Scanner) : Int := s.place.column

def push (token : Token) (s : Scanner) : Scanner := { s with tokens := token :: s.tokens }

/-- Adds a token and passes its characters. -/
def take (n : Nat) (token : Token) (s : Scanner) : Scanner :=
  { s with tokens := token :: s.tokens, place := s.place.skip n }

/-- Puts a token behind the first `count` tokens. -/
def insert (count : Nat) (token : Token) (s : Scanner) : Scanner :=
  let later := s.tokens.length - count
  { s with tokens := s.tokens.take later ++ token :: s.tokens.drop later }

/-! ### Keys -/

/-- Gives a possible key up, which must not be a required one. -/
def dropKey? : Option PossibleKey → Option (Option PossibleKey)
  | none => some none
  | some k => if k.required then none else some none

def dropOver? (p : Place) (key : Option PossibleKey) : Option (Option PossibleKey) :=
  if key.any (PossibleKey.isOver p) then dropKey? key else some key

/-- Gives up the possible keys that have become too long. -/
def dropOverKeys? (s : Scanner) : Option Scanner := do
  let key ← dropOver? s.place s.key
  let outerKeys ← s.outerKeys.mapM (dropOver? s.place)
  some { s with key, outerKeys }

def dropLastKey? (s : Scanner) : Option Scanner := do
  let key ← dropKey? s.key
  some { s with key }

/-- Remembers that a key may begin here. -/
def noteKey? (s : Scanner) : Option Scanner :=
  if s.keyAllowed then do
    let s ← s.dropLastKey?
    let required := !s.inFlow && s.indent == s.column
    some { s with key := some { required, tokens := s.tokens.length, place := s.place } }
  else some s

/-! ### Indentation -/

/-- Closes the blocks that are deeper than a column. -/
def closeBlocks (column : Int) (indent : Int) : List Int → List Token → Int × List Int × List Token
  | [], tokens => (indent, [], tokens)
  | i :: outer, tokens =>
    if column < indent then closeBlocks column i outer (.blockEnd :: tokens)
    else (indent, i :: outer, tokens)

def unroll (column : Int) (s : Scanner) : Scanner :=
  if s.inFlow then s
  else
    let (indent, outer, tokens) := closeBlocks column s.indent s.outer s.tokens
    { s with indent, outer, tokens }

/-- Opens a block at a column deeper than the innermost one, behind the first `count` tokens. -/
def roll (column : Int) (count : Nat) (token : Token) (s : Scanner) : Scanner :=
  if !s.inFlow && s.indent < column then
    { s with indent := column, outer := s.indent :: s.outer }.insert count token
  else s

/-! ### Space between tokens -/

/-- Passes blanks, comments and line ends. A tab may not stand where a key could. -/
def skipSpace (s : Scanner) : Scanner :=
  let isSpace (c : Char) : Bool := c == ' ' || (c == '\t' && (s.inFlow || !s.keyAllowed))
  let p := (s.place.skipOrderMark.skipWhile isSpace).skipComment
  match p.rest with
  | [] => { s with place := p }
  | c :: _ =>
    if isBreak c then
      let next := p.skipBreak
      if next.rest.length < s.place.rest.length then
        skipSpace { s with place := next, keyAllowed := s.keyAllowed || !s.inFlow }
      else { s with place := next }
    else { s with place := p }
termination_by s.place.rest.length

/-! ### Tokens with names -/

def inName (c : Char) : Bool := c.isAlphanum || c == '_' || c == '-'

/-- The name of an anchor, or of a reference to it, and its length. -/
def anchorName? (p : Place) : Option (List Char) :=
  let name := p.rest.takeWhile inName
  let behind := p.rest.drop name.length
  let ends := endsWord behind ||
    behind.head?.any (['?', ':', ',', ']', '\x7d', '%', '@', '\x60'].contains ·)
  if name.isEmpty || !ends then none else some name

def inUri (verbatim : Bool) (c : Char) : Bool :=
  inName c || ";/?:@&=+$.!~*'()".toList.contains c || (verbatim && [',', '[', ']'].contains c)

/-- The bytes that percent signs write. -/
def uriBytes : List Char → Option (List UInt8 × List Char)
  | '%' :: a :: b :: rest => do
    let byte ← Number.inBase? 16 [a, b]
    let (bytes, rest) ← uriBytes rest
    some (byte.toUInt8 :: bytes, rest)
  | '%' :: _ => none
  | rest => some ([], rest)

/-- The text of a tag, escapes resolved, and what follows it. -/
def uri? (verbatim : Bool) (cs : List Char) : Option (List Char × List Char) :=
  match cs with
  | [] => some ([], [])
  | c :: rest =>
    if c = '%' then do
      let (bytes, behind) ← uriBytes cs
      let text ← String.fromUTF8? ⟨bytes.toArray⟩
      if behind.length < rest.length + 1 then
        let (more, behind) ← uri? verbatim behind
        some (text.toList ++ more, behind)
      else none
    else if inUri verbatim c then do
      let (more, behind) ← uri? verbatim rest
      some (c :: more, behind)
    else some ([], cs)
termination_by cs.length

/-- A tag: verbatim between angle brackets, or a handle and a suffix. -/
def tagAt? (cs : List Char) : Option (Token × List Char) :=
  match cs with
  | '!' :: '<' :: rest => do
    match ← uri? true rest with
    | (text, '>' :: behind) => if text.isEmpty then none else some (.tag [] text, behind)
    | _ => none
  | '!' :: rest =>
    let name := rest.takeWhile inName
    match rest.drop name.length with
    | '!' :: behind => do
      let (suffix, behind) ← uri? false behind
      if suffix.isEmpty then none else some (.tag ('!' :: name ++ ['!']) suffix, behind)
    | behind => do
      let (more, behind) ← uri? false behind
      let suffix := name ++ more
      some (if suffix.isEmpty then .tag [] ['!'] else .tag ['!'] suffix, behind)
  | _ => none

/-! ### Directives -/

def versionNumber? (cs : List Char) : Option (Nat × List Char) :=
  let digits := cs.takeWhile Number.isDigit
  if digits.isEmpty ∨ 9 < digits.length then none
  else some (Number.natOfDigits digits, cs.drop digits.length)

def directive? (cs : List Char) : Option (Token × List Char) := do
  let name := cs.takeWhile inName
  let rest := (cs.drop name.length).dropWhile isBlank
  if name = "YAML".toList then
    let (major, rest) ← versionNumber? rest
    match rest with
    | '.' :: rest =>
      let (minor, rest) ← versionNumber? rest
      some (.version major minor, rest)
    | _ => none
  else if name = "TAG".toList then
    match rest with
    | '!' :: rest =>
      let word := rest.takeWhile inName
      let (handle, rest) ← match rest.drop word.length with
        | '!' :: rest => some ('!' :: word ++ ['!'], rest)
        | rest => if word.isEmpty then some (['!'], rest) else none
      if !rest.head?.any isBlank then none
      else
        let (expansion, rest) ← uri? true (rest.dropWhile isBlank)
        if expansion.isEmpty || !endsWord rest then none
        else some (.tagHandle handle expansion, rest)
    | _ => none
  else none

/-! ### Steps -/

/-- Adds a token that begins a flow collection. -/
def openFlow? (token : Token) (s : Scanner) : Option Scanner := do
  let s ← s.noteKey?
  some ({ s with key := none, outerKeys := s.key :: s.outerKeys, keyAllowed := true }.take 1 token)

def closeFlow? (token : Token) (s : Scanner) : Option Scanner := do
  let s ← s.dropLastKey?
  let s := match s.outerKeys with
    | [] => s
    | key :: outerKeys => { s with key, outerKeys }
  some ({ s with keyAllowed := false }.take 1 token)

def flowEntry? (s : Scanner) : Option Scanner := do
  let s ← s.dropLastKey?
  some ({ s with keyAllowed := true }.take 1 .flowEntry)

/-- Opens the block of which the token here is a mark. -/
def enter? (block : Token) (s : Scanner) : Option Scanner :=
  if s.inFlow then some s
  else if s.keyAllowed then some (s.roll s.column s.tokens.length block)
  else none

def blockEntry? (s : Scanner) : Option Scanner := do
  let s ← s.enter? .blockSequence
  let s ← s.dropLastKey?
  some ({ s with keyAllowed := true }.take 1 .blockEntry)

def key? (s : Scanner) : Option Scanner := do
  let s ← s.enter? .blockMapping
  let s ← s.dropLastKey?
  some ({ s with keyAllowed := !s.inFlow }.take 1 .key)

/-- A colon makes the possible key before it a key. -/
def value? (s : Scanner) : Option Scanner := do
  match s.key with
  | some k =>
    let s := (s.insert k.tokens .key).roll k.place.column k.tokens .blockMapping
    some ({ s with key := none, keyAllowed := false }.take 1 .value)
  | none =>
    let s ← s.enter? .blockMapping
    some ({ s with keyAllowed := !s.inFlow }.take 1 .value)

/-- Closes all blocks, at the start or end of a document or at a directive. -/
def leaveAll? (s : Scanner) : Option Scanner := do
  let s ← (s.unroll (-1)).dropLastKey?
  some { s with keyAllowed := false }

def named? (make : List Char → Token) (s : Scanner) : Option Scanner := do
  let s ← s.noteKey?
  let name ← anchorName? (s.place.skip 1)
  some ({ s with keyAllowed := false }.take (name.length + 1) (make name))

def tag? (s : Scanner) : Option Scanner := do
  let s ← s.noteKey?
  let (token, behind) ← tagAt? s.place.rest
  if !endsWord behind && !(s.inFlow && behind.head? == some ',') then none
  else some ({ s with keyAllowed := false }.take (s.place.rest.length - behind.length) token)

def readDirective? (s : Scanner) : Option Scanner := do
  let s ← s.leaveAll?
  let (token, behind) ← directive? (s.place.rest.drop 1)
  let p := ((s.place.skip (s.place.rest.length - behind.length)).skipWhile isBlank).skipComment
  if p.rest.isEmpty || p.rest.head?.any isBreak then some { s.push token with place := p }
  else none

def readBlock? (folded : Bool) (s : Scanner) : Option Scanner := do
  let s ← s.dropLastKey?
  let (content, place) ← block? folded s.indent s.place
  some { s.push (.scalar false content) with place, keyAllowed := true }

def readQuoted? (double : Bool) (s : Scanner) : Option Scanner := do
  let s ← s.noteKey?
  let (content, place) ← quoted? double [] (s.place.skip 1)
  some { s.push (.scalar false content) with place, keyAllowed := false }

def readPlain? (s : Scanner) : Option Scanner := do
  let s ← s.noteKey?
  let (content, place, keyAllowed) ←
    plain? (s.indent + 1).toNat s.inFlow [] (.blanks []) s.place
  some { s.push (.scalar true content) with place, keyAllowed }

/-- Characters that begin no plain text. -/
def isMark (c : Char) : Bool := "-?:,[]\x7b\x7d#&*!|>'\"%@\x60".toList.contains c

/-- Reads the token that begins with this character. -/
def token? (c : Char) (rest : List Char) (s : Scanner) : Option Scanner :=
  if s.place.column = 0 ∧ c = '%' then s.readDirective?
  else if s.place.isMarker '-' then s.leaveAll?.map (take 3 .documentStart)
  else if s.place.isMarker '.' then s.leaveAll?.map (take 3 .documentEnd)
  else if c = '[' then s.openFlow? .flowSequence
  else if c = '\x7b' then s.openFlow? .flowMapping
  else if c = ']' then s.closeFlow? .flowSequenceEnd
  else if c = '\x7d' then s.closeFlow? .flowMappingEnd
  else if c = ',' then s.flowEntry?
  else if c = '-' ∧ endsWord rest then s.blockEntry?
  else if c = '?' ∧ (s.inFlow ∨ endsWord rest) then s.key?
  else if c = ':' ∧ (s.inFlow ∨ endsWord rest) then s.value?
  else if c = '*' then s.named? .reference
  else if c = '&' then s.named? .anchor
  else if c = '!' then s.tag?
  else if c = '|' ∧ !s.inFlow then s.readBlock? false
  else if c = '>' ∧ !s.inFlow then s.readBlock? true
  else if c = '\'' then s.readQuoted? false
  else if c = '\"' then s.readQuoted? true
  else if !(isMark c || isBlank c) || (c == '-' && !rest.head?.any isBlank) ||
      (!s.inFlow && (c == '?' || c == ':')) then s.readPlain?
  else none

/-- The tokens of the text that is left. -/
def all? (s : Scanner) : Option (List Token) := do
  let ready ← s.skipSpace.dropOverKeys?
  let ready := ready.unroll ready.column
  match ready.place.rest with
  | [] => ((ready.unroll (-1)).dropLastKey?).map fun done => done.tokens.reverse
  | c :: rest =>
    let next ← ready.token? c rest
    if next.place.rest.length < s.place.rest.length then all? next else none
termination_by s.place.rest.length

end Scanner

/-- The tokens of a text, if each of its parts is one. A mark of the order of bytes may begin it. -/
def tokens? (cs : List Char) : Option (List Token) :=
  let cs := if cs.head? = some orderMark then cs.drop 1 else cs
  if cs.all isAllowed then Scanner.all? { place := { rest := cs } } else none

end NoteBridge.Yaml
