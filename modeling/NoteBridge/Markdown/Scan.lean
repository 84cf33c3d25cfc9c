import NoteBridge.Markdown.Autolink
import NoteBridge.Markdown.Delimiter
import NoteBridge.Markdown.Link
import NoteBridge.Markdown.Verbatim

/-!
Reading inline content from the left to the right. Finished spans and open runs of delimiters are
kept as pieces, the last one first; an open bracket keeps the pieces before it apart, since a link
that closes there takes those behind it as its text.
-/

namespace NoteBridge.Markdown

open Text

/-- An open bracket: what follows it, and whether another bracket was opened behind it. -/
structure Bracket where
  image : Bool
  source : List Char
  followed : Bool := false
  outer : List Piece

def Bracket.text (b : Bracket) : Piece := .span (.text (if b.image then ['!', '['] else ['[']))

/-- What was read: the characters, the pieces behind the last open bracket, the open brackets, all
with the last one first. Links between notes are not looked for behind an open bracket. After a
link has been closed, brackets opened before it are none of links. -/
structure Scan where
  before : List Char := []
  pieces : List Piece := []
  brackets : List Bracket := []
  inBrackets : Bool := false
  linkClosed : Bool := true
  declarations : Bool := true

namespace Scan

/-- What one step makes of the state, and what it leaves to read. -/
abbrev Step := Scan × List Char

def addPiece (s : Scan) (piece : Piece) : Scan := { s with pieces := piece :: s.pieces }

def addSpan (s : Scan) (span : Span) : Scan := s.addPiece (.span span)

def addText (s : Scan) (cs : List Char) : Scan := s.addSpan (.text cs)

/-- Adds the span that was read, or else the mark that was to begin it as text. -/
def addRead (s : Scan) (mark : List Char) (rest : List Char) : Option (Span × List Char) → Step
  | some (span, rest) => (s.addSpan span, rest)
  | none => (s.addText mark, rest)

/-- The end of a line, a hard one behind two spaces. The spaces that begin the next line are
nothing. -/
def readLineEnd (s : Scan) (rest : List Char) : Step :=
  let hard := [' ', ' '].isPrefixOf s.before
  (s.addSpan (if hard then .lineBreak else .softBreak), rest.dropWhile isSpaceOrTab)

/-- A backslash makes punctuation literal and the end of a line a hard one. -/
def readBackslash (s : Scan) (rest : List Char) : Step :=
  match rest with
  | '\n' :: rest => (s.addSpan .lineBreak, rest)
  | c :: behind =>
    if isAsciiPunctuation c then (s.addText [c], behind) else (s.addText ['\\'], rest)
  | [] => (s.addText ['\\'], [])

def readReference (s : Scan) (rest : List Char) : Step :=
  match CharacterReference.read? rest with
  | some (text, rest) => (s.addText text, rest)
  | none => (s.addText ['&'], rest)

def readAngle (s : Scan) (rest : List Char) : Step :=
  match Verbatim.address? rest with
  | some (link, rest) => (s.addSpan link, rest)
  | none =>
    let (found, declarations) := Verbatim.html s.declarations rest
    let s := { s with declarations }
    match found with
    | some behind => (s.addSpan (.html ('<' :: rest.take (rest.length - behind.length))), behind)
    | none => (s.addText ['<'], rest)

/-- The character that counts as the neighbour of a run; tildes are looked through. -/
def neighbour (cs : List Char) : Char := (cs.find? (· != '~')).getD '\n'

def readRun (s : Scan) (mark : Char) (rest : List Char) : Step :=
  let count := rowLength mark rest + 1
  let behind := rest.drop (count - 1)
  let run := Run.between mark count (neighbour s.before) (neighbour behind)
  (s.addPiece (.run run), behind)

def openBracket (s : Scan) (image : Bool) (rest : List Char) : Scan :=
  let brackets := match s.brackets with
    | [] => []
    | b :: outer => { b with followed := true } :: outer
  { s with
    pieces := []
    brackets := { image, source := rest, outer := s.pieces } :: brackets
    inBrackets := true
    linkClosed := image && s.linkClosed }

/-- Closes the last bracket, with the pieces behind it as the text of a link or image. -/
def linkTo (s : Scan) (b : Bracket) (target : Target) : Scan :=
  let children := Emphasis.resolve s.pieces.reverse
  let span :=
    if b.image then .image target.url target.title children
    else .link target.url target.title children
  { s with pieces := .span span :: b.outer, linkClosed := !b.image || s.linkClosed }

def closeBracket (refs : References) (s : Scan) (rest : List Char) : Step :=
  let s := { s with inBrackets := false }
  match s.brackets with
  | [] => (s.addText [']'], rest)
  | b :: brackets =>
    let s := { s with brackets }
    let content := b.source.take (b.source.length - rest.length - 1)
    let target? :=
      if !b.image && s.linkClosed then none else Link.target? refs content b.followed rest
    match target? with
    | some (target, rest) => (s.linkTo b target, rest)
    | none => ({ s with pieces := s.pieces ++ b.text :: b.outer }.addText [']'], rest)

def readBracket (s : Scan) (rest : List Char) : Step :=
  match if s.inBrackets then none else Link.crossRef? rest with
  | some (link, rest) => (s.addSpan link, rest)
  | none => (s.openBracket false rest, rest)

def readExclamation (s : Scan) (rest : List Char) : Step :=
  match rest with
  | '[' :: '^' :: _ => (s.addText ['!'], rest)
  | '[' :: rest => (s.openBracket true rest, rest)
  | _ => (s.addText ['!'], rest)

/-- Takes characters off the texts that come last. -/
def withoutText : Nat → List Piece → List Piece
  | 0, pieces => pieces
  | n, .span (.text cs) :: pieces =>
    if n < cs.length then .span (.text (cs.take (cs.length - n))) :: pieces
    else withoutText (n - cs.length) pieces
  | _, pieces => pieces

/-- A web address around a character, which is text where there is none. Addresses are not looked
for behind an open bracket. -/
def readWeb (s : Scan) (c : Char) (rest : List Char) (found? : Option Autolink.Found) : Step :=
  match if s.inBrackets then none else found? with
  | some found =>
    ({ s with pieces := .span found.link :: withoutText found.taken s.pieces }, found.rest)
  | none => (s.addText [c], rest)

/-- The characters at which plain text ends. -/
def isSpecial (c : Char) : Bool :=
  ['\n', '\x60', '\\', '&', '<', '*', '_', '~', '[', ']', '!', '$', ':', 'w'].contains c

def endsWithBreak (s : Scan) : Bool :=
  match s.pieces with
  | .span .lineBreak :: _ => true
  | _ => false

/-- Plain text. Spaces at the end of its line are dropped, and those behind a hard end of a line. -/
def readText (s : Scan) (c : Char) (rest : List Char) : Step :=
  let content := c :: rest.takeWhile (!isSpecial ·)
  let behind := rest.dropWhile (!isSpecial ·)
  let content := if behind.head? = some '\n' then dropEndWhile isSpacing content else content
  let content := if s.endsWithBreak then content.dropWhile isSpacing else content
  (s.addText content, behind)

def step (refs : References) (s : Scan) (c : Char) (rest : List Char) : Step :=
  let row := rowLength c rest + 1
  let behind := rest.drop (row - 1)
  match c with
  | '\n' => s.readLineEnd rest
  | '\x60' => s.addRead (List.replicate row c) behind (Verbatim.code? row behind)
  | '$' => s.addRead (List.replicate row c) behind (Verbatim.math? row behind)
  | '\\' => s.readBackslash rest
  | '&' => s.readReference rest
  | '<' => s.readAngle rest
  | '*' | '_' | '~' => s.readRun c rest
  | '[' => s.readBracket rest
  | ']' => s.closeBracket refs rest
  | '!' => s.readExclamation rest
  | ':' => s.readWeb c rest (Autolink.web? s.before rest)
  | 'w' => s.readWeb c rest (Autolink.host? s.before (c :: rest))
  | _ => s.readText c rest

/-- Brackets that are still open are text. -/
def settled (s : Scan) : List Piece :=
  s.pieces ++ s.brackets.flatMap fun b => b.text :: b.outer

def run (refs : References) (s : Scan) : List Char → List Piece
  | [] => s.settled
  | c :: cs =>
    let (next, rest) := step refs s c cs
    let taken := (c :: cs).take (cs.length + 1 - rest.length)
    let next := { next with before := taken.reverse ++ s.before }
    if _shorter : rest.length < (c :: cs).length then run refs next rest else next.settled
termination_by cs => cs.length
decreasing_by exact _shorter

end Scan

/-- The spans of a text, next to each other as they were read. -/
def Span.read (refs : References) (cs : List Char) : List Span :=
  Span.joinTexts (Emphasis.resolve (Scan.run refs {} (dropEndWhile isSpacing cs)).reverse)

end NoteBridge.Markdown
