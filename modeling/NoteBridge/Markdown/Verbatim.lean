import NoteBridge.Markdown.Html
import NoteBridge.Markdown.Literal
import NoteBridge.Markdown.Marker
import NoteBridge.Markdown.Span

/-!
Inline content that is kept as it is written: code between backticks, formulas between dollars, and
addresses and hypertext between angle brackets. A reader starts behind the mark that begins the
content and gives the content with the text behind it.
-/

namespace NoteBridge.Markdown.Verbatim

open Text

theorem length_drop_lt (n : Nat) (c : Char) (cs : List Char) :
    (cs.drop n).length < (c :: cs).length := by
  simp only [List.length_drop, List.length_cons]
  omega

/-! ### Code -/

/-- The text before the first row of exactly `n` marks, and the text behind that row. -/
def untilRow? (mark : Char) (n : Nat) : List Char → Option (List Char × List Char)
  | [] => none
  | c :: cs =>
    if c = mark then
      let more := rowLength mark cs
      if more + 1 = n then some ([], cs.drop more)
      else
        (untilRow? mark n (cs.drop more)).map fun (inner, rest) =>
          (List.replicate (more + 1) mark ++ inner, rest)
    else (untilRow? mark n cs).map fun (inner, rest) => (c :: inner, rest)
termination_by cs => cs.length
decreasing_by
  · exact length_drop_lt _ _ _
  · simp

/-- Line ends become spaces. A text of spaces alone stays; of any other that then has a space at
both ends, one is dropped there. -/
def codeText (cs : List Char) : List Char :=
  let flat := replaceChar '\n' [' '] cs
  if cs.all (· == ' ') then cs
  else if flat.head? = some ' ' ∧ flat.getLast? = some ' ' then flat.tail.dropLast
  else flat

/-- The longest row of backticks that can begin code. -/
def rowLimit : Nat := 80

def code? (n : Nat) (cs : List Char) : Option (Span × List Char) :=
  if rowLimit < n then none
  else (untilRow? '\x60' n cs).map fun (inner, rest) => (.code (codeText inner), rest)

/-! ### Formulas -/

/-- The text before the dollar that ends a formula in the line; `last` stands before it. A formula
ends neither behind a space nor before a digit, and a backslash hides the dollar behind it. -/
def untilDollar? (last : Char) : List Char → Option (List Char × List Char)
  | [] => none
  | c :: cs =>
    if c ≠ '$' ∨ last = '\\' then
      (untilDollar? c cs).map fun (inner, rest) => (c :: inner, rest)
    else if isSpacing last || cs.head?.any Number.isDigit then none
    else some ([], cs)

/-- The text before the first two dollars. -/
def untilDollars? : List Char → Option (List Char × List Char)
  | [] => none
  | '$' :: '$' :: rest => some ([], rest)
  | c :: cs => (untilDollars? cs).map fun (inner, rest) => (c :: inner, rest)

/-- A formula between dollars, one on each side in the line and two for display. -/
def math? (n : Nat) (cs : List Char) : Option (Span × List Char) :=
  match n with
  | 1 =>
    if cs.head?.any isSpacing then none
    else (untilDollar? '$' cs).map fun (inner, rest) => (.math false (codeText inner), rest)
  | 2 => (untilDollars? cs).map fun (inner, rest) => (.math true inner, rest)
  | _ => none

/-! ### Angle brackets -/

def inScheme (c : Char) : Bool := c.isAlphanum || ['+', '.', '-'].contains c

def inAddress (c : Char) : Bool := 0x20 < c.toNat && c != '<' && c != '>'

/-- An address with a scheme of 2 to 32 characters. -/
def uri? (cs : List Char) : Option (List Char × List Char) :=
  let scheme := cs.takeWhile inScheme
  match cs.drop scheme.length with
  | ':' :: rest =>
    match rest.dropWhile inAddress with
    | '>' :: behind =>
      if 2 ≤ scheme.length ∧ scheme.length ≤ 32 ∧ scheme.head?.any Char.isAlpha then
        some (scheme ++ ':' :: rest.takeWhile inAddress, behind)
      else none
    | _ => none
  | _ => none

def inMailbox (c : Char) : Bool :=
  c.isAlphanum || ".!#$%&'*+/=?^_\x60\x7b|\x7d~-".toList.contains c

/-- A part of a domain's name: letters and digits, with hyphens between them. -/
def isDomainPart (cs : List Char) : Bool :=
  let isEnd (c : Option Char) : Bool := c.any Char.isAlphanum
  cs.length ≤ 63 && isEnd cs.head? && isEnd cs.getLast? &&
    cs.all fun c => c.isAlphanum || c == '-'

def mail? (cs : List Char) : Option (List Char × List Char) :=
  match cs.dropWhile inMailbox with
  | '@' :: rest =>
    let domain := rest.takeWhile (· != '>')
    match rest.dropWhile (· != '>') with
    | _ :: behind =>
      if !(cs.takeWhile inMailbox).isEmpty && (splitWhere (· == '.') domain).all isDomainPart then
        some (cs.takeWhile inMailbox ++ '@' :: domain, behind)
      else none
    | [] => none
  | _ => none

def mailScheme : List Char := "mailto:".toList

def address? (cs : List Char) : Option (Span × List Char) :=
  match uri? cs with
  | some (uri, rest) => some (.link (decode uri) [] [.text (decode uri)], rest)
  | none =>
    (mail? cs).map fun (mail, rest) =>
      (.link (mailScheme ++ decode mail) [] [.text (decode mail)], rest)

/-- What stands behind an exclamation mark that follows an angle bracket. -/
inductive Declared
  | found (rest : List Char)
  | missing
  | unendingComment

def Declared.ofOption : Option (List Char) → Declared
  | some rest => found rest
  | none => missing

def declared (cs : List Char) : Declared :=
  match cs with
  | '-' :: '-' :: rest =>
    match Html.comment? rest with
    | some rest => .found rest
    | none => .unendingComment
  | '[' :: _ => .ofOption ((Html.sectionStart? cs).bind Html.sectionEnd?)
  | _ => .ofOption (Html.declaration? cs)

/-- Hypertext from behind its angle bracket on: the text behind it, and whether declarations are
still looked for. A comment without end turns that off. -/
def html (declarations : Bool) (cs : List Char) : Option (List Char) × Bool :=
  match cs with
  | '!' :: rest =>
    if declarations then
      match declared rest with
      | .found rest => (some rest, true)
      | .missing => (none, true)
      | .unendingComment => (none, false)
    else (none, false)
  | '?' :: rest => (Html.instructionEnd? rest, declarations)
  | _ => (Html.tag? cs, declarations)

end NoteBridge.Markdown.Verbatim
