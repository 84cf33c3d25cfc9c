import NoteBridge.FrontMatter
import NoteBridge.Toml.Bare
import NoteBridge.Toml.Table
import NoteBridge.Toml.Text

/-!
The record that a text of TOML holds. A text is a list of statements, each on a line of its own
unless a value in it takes up several; it is readable when every statement is and when all of them
agree. Each step uses up a character, and the length of the text bounds the steps.
-/

namespace NoteBridge.Toml

open Text (isSpaceOrTab afterLineEnd?)

/-- Values nest less deep than this, and keys have fewer parts. -/
def levelLimit : Nat := 80

def skipSpace (cs : List Char) : List Char := cs.dropWhile isSpaceOrTab

/-- The text behind a comment, if it begins with one. -/
def skipComment : List Char → List Char
  | '#' :: rest => rest.dropWhile isPlain
  | cs => cs

/-- The text behind the end of a line, which a comment may fill up. -/
def endLine? (cs : List Char) : Option (List Char) :=
  match skipComment (skipSpace cs) with
  | [] => some []
  | rest => afterLineEnd? rest

/-- The text behind blanks, comments and line ends. -/
def skipLines : Nat → List Char → List Char
  | 0, cs => cs
  | fuel + 1, cs =>
    let cs := skipSpace cs
    match afterLineEnd? (skipComment cs) with
    | some rest => skipLines fuel rest
    | none => cs

/-! ### Keys -/

def isKeyChar (c : Char) : Bool := c.isAlphanum || c == '_' || c == '-'

def keyPart? (cs : List Char) : Option (String × List Char) :=
  if cs.head?.any isQuote then (quoted? cs).map fun (content, rest) => (String.ofList content, rest)
  else
    let word := cs.takeWhile isKeyChar
    if word.isEmpty then none else some (String.ofList word, cs.dropWhile isKeyChar)

/-- A key of at most `limit` parts with dots between them. -/
def key? : Nat → List Char → Option (Key × List Char)
  | 0, _ => none
  | limit + 1, cs => do
    let (part, rest) ← keyPart? (skipSpace cs)
    match skipSpace rest with
    | '.' :: rest =>
      let (key, rest) ← key? limit rest
      some ({ key with path := part :: key.path }, rest)
    | rest => some (⟨[], part⟩, rest)

/-! ### Values -/

mutual

/-- Reads a value at a level. -/
def value? : Nat → Nat → List Char → Option (Json × List Char)
  | 0, _, _ => none
  | fuel + 1, level, cs =>
    let within := level + 1
    match cs with
    | '[' :: rest => if within < levelLimit then items? fuel within [] rest else none
    | '\x7b' :: rest =>
      if levelLimit ≤ within then none
      else
        match skipSpace rest with
        | '\x7d' :: rest => some (.obj [], rest)
        | rest => do
          let (entries, rest) ← entries? fuel within [] rest
          some (Parts.toJson (← Parts.ofStatements entries), rest)
    | _ =>
      if cs.head?.any isQuote then
        (text? cs).map fun (content, rest) => (.str (String.ofList content), rest)
      else bare? cs

/-- The items of a list up to its bracket; a comma may follow the last one. -/
def items? : Nat → Nat → List Json → List Char → Option (Json × List Char)
  | 0, _, _, _ => none
  | fuel + 1, level, done, cs =>
    match skipLines cs.length cs with
    | ']' :: rest => some (.arr done.reverse, rest)
    | cs => do
      let (item, rest) ← value? fuel level cs
      match skipLines rest.length rest with
      | ',' :: rest => items? fuel level (item :: done) rest
      | ']' :: rest => some (.arr (item :: done).reverse, rest)
      | _ => none

/-- The entries of a table in brackets, which is on one line. -/
def entries? : Nat → Nat → List Statement → List Char → Option (List Statement × List Char)
  | 0, _, _, _ => none
  | fuel + 1, level, done, cs => do
    let (key, rest) ← key? (levelLimit - 1) cs
    match rest with
    | '=' :: rest =>
      let (value, rest) ← value? fuel level (skipSpace rest)
      let done := .entry key value :: done
      match skipSpace rest with
      | ',' :: rest => entries? fuel level done rest
      | '\x7d' :: rest => some (done.reverse, rest)
      | _ => none
    | _ => none

end

/-! ### Statements -/

/-- The heading of a table, behind its brackets. -/
def heading? (cs : List Char) : Option (Statement × List Char) :=
  match cs with
  | '[' :: rest => do
    match ← key? (levelLimit - 1) rest with
    | (key, ']' :: ']' :: rest) => some (.nextTable key, rest)
    | _ => none
  | _ => do
    match ← key? (levelLimit - 1) cs with
    | (key, ']' :: rest) => some (.table key, rest)
    | _ => none

def statement? (cs : List Char) : Option (Statement × List Char) :=
  match skipSpace cs with
  | '[' :: rest => heading? rest
  | cs => do
    match ← key? (levelLimit - 1) cs with
    | (key, '=' :: rest) =>
      let (value, rest) ← value? (2 * rest.length + 2) 0 (skipSpace rest)
      some (.entry key value, rest)
    | _ => none

def statements? : Nat → List Char → Option (List Statement)
  | 0, _ => none
  | fuel + 1, cs =>
    if cs.isEmpty then some []
    else
      match endLine? cs with
      | some rest => statements? fuel rest
      | none => do
        let (statement, rest) ← statement? cs
        let statements ← statements? fuel (← endLine? rest)
        some (statement :: statements)

/-- The mark that may stand in front of a text to show how it is coded. -/
def byteOrderMark : Char := '\ufeff'

/-- The record of a text of TOML. -/
def read? (cs : List Char) : Option Record := do
  let cs := if cs.head? = some byteOrderMark then cs.drop 1 else cs
  let parts ← Parts.ofStatements (← statements? (cs.length + 1) cs)
  some (Dict.ofList (Parts.fields parts))

end NoteBridge.Toml
