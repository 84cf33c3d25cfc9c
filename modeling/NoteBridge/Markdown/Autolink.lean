import NoteBridge.Markdown.Verbatim

/-!
Addresses that become links without any mark. Web addresses have a scheme or begin with `www`; they
are found in the source, and what their characters mean elsewhere does not count inside them. Mail
addresses are found in the texts that are left, outside of links and not behind an open bracket of
the text.
-/

namespace NoteBridge.Markdown.Autolink

open Text

/-! ### The end of an address -/

/-- Marks that end a sentence or emphasis and not an address. -/
def isTrailing (c : Char) : Bool :=
  ['?', '!', '.', ',', ':', '*', '_', '~', '\'', '\"'].contains c

/-- The end of an address, last character first: trailing marks are dropped, a character reference,
and closing parentheses that none opens. -/
def dropTrailing (cs : List Char) : List Char :=
  match cs with
  | [] => []
  | c :: rest =>
    if isTrailing c then dropTrailing rest
    else if c = ';' then
      let name := rest.takeWhile Char.isAlpha
      match _h : rest.drop name.length with
      | '&' :: before => if name.isEmpty then dropTrailing rest else dropTrailing before
      | _ => dropTrailing rest
    else if c = ')' ∧ cs.count '(' < cs.count ')' then dropTrailing rest
    else cs
termination_by cs.length
decreasing_by
  · simp
  · simp
  · have := congrArg List.length _h
    simp only [List.length_drop, List.length_cons] at this ⊢
    omega
  · simp
  · simp

/-- The address at the start of a text, which reaches to a space or an angle bracket at most. -/
def extent (cs : List Char) : List Char :=
  (dropTrailing ((cs.takeWhile (!isSpacing ·)).takeWhile (· != '<')).reverse).reverse

def isHostCharacter (c : Char) : Bool := !(isBlank c || isPunctuation c || isSymbol c)

/-- Whether an address begins with a domain: `dots` of its points are passed, `last` underscores
since the last one and `previous` before that. The last two parts of a domain hold none. A
backslash before another character does not count. -/
def isDomain (short : Bool) (dots previous last : Nat) : List Char → Bool
  | [] => (previous + last == 0 || 10 < dots) && (short || 0 < dots)
  | c :: cs =>
    if c = '\\' ∧ !cs.isEmpty then isDomain short dots previous last cs
    else if c = '_' then isDomain short dots previous (last + 1) cs
    else if c = '.' then isDomain short (dots + 1) last 0 cs
    else if isHostCharacter c || c == '-' then isDomain short dots previous last cs
    else previous + last == 0 && (short || 0 < dots)

/-! ### Addresses -/

/-- An address that was found around a character: how many characters before that belong to it, and
what is behind it. -/
structure Found where
  taken : Nat
  url : List Char
  shown : List Char
  rest : List Char

def schemes : List (List Char) := ["http".toList, "https".toList, "ftp".toList]

/-- A web address around a colon. -/
def web? (before cs : List Char) : Option Found :=
  match cs with
  | '/' :: '/' :: c :: rest =>
    let scheme := (before.takeWhile Char.isAlpha).reverse
    if schemes.contains scheme && isDomain true 0 0 0 (c :: rest) then
      let tail := extent (':' :: cs)
      let url := scheme ++ tail
      some ⟨scheme.length, url, url, (':' :: cs).drop tail.length⟩
    else none
  | _ => none

/-- Whether a host can begin behind these characters. -/
def canPrecede : List Char → Bool
  | [] => true
  | c :: _ => isSpacing c || ['*', '_', '~', '(', '['].contains c

/-- A web address without scheme. -/
def host? (before cs : List Char) : Option Found :=
  if canPrecede before && "www.".toList.isPrefixOf cs && isDomain false 0 0 0 cs then
    let shown := extent cs
    some ⟨0, "http://".toList ++ shown, shown, cs.drop shown.length⟩
  else none

/-- Schemes that may stand before a mail address. -/
inductive MailScheme
  | none
  | mail
  | chat
deriving DecidableEq

/-- The part of a mail address before its sign, last character first, and the scheme in it. -/
def mailbox (scheme : MailScheme) : List Char → List Char × MailScheme
  | [] => ([], scheme)
  | c :: before =>
    let continued (scheme : MailScheme) :=
      let (taken, scheme) := mailbox scheme before
      (c :: taken, scheme)
    if c.isAlphanum || ['.', '+', '-', '_'].contains c then continued scheme
    else if c = ':' then
      let word := (before.takeWhile Char.isAlpha).reverse
      if word = "mailto".toList then
        continued (if scheme = .chat then .chat else .mail)
      else if word = "xmpp".toList then continued .chat
      else ([], scheme)
    else ([], scheme)

/-- The domain of a mail address and the number of its points; none if another sign follows. -/
def mailDomain? (chat : Bool) : List Char → Option (List Char × Nat)
  | [] => some ([], 0)
  | c :: cs =>
    let continued (dots : Nat) :=
      (mailDomain? chat cs).map fun (domain, n) => (c :: domain, n + dots)
    if c.isAlphanum then continued 0
    else if c = '@' then none
    else if c = '.' ∧ cs.head?.any Char.isAlphanum then continued 1
    else if c = '/' ∧ chat then continued 0
    else if c = '-' ∨ c = '_' then continued 0
    else some ([], 0)

/-- A mail address around its sign. -/
def mail? (before cs : List Char) : Option Found := do
  let (box, scheme) := mailbox .none before
  let (domain, dots) ← mailDomain? (scheme == .chat) cs
  let endsWell := domain.getLast?.any fun c => c.isAlpha || c == '.'
  if box.isEmpty || dots == 0 || !endsWell then none
  else
    let shown := box.reverse ++ extent ('@' :: domain)
    let url := if scheme = .none then Verbatim.mailScheme ++ shown else shown
    some ⟨box.length, url, shown, cs.drop (shown.length - box.length - 1)⟩

/-! ### Texts -/

/-- The first mail address in a text, of which `before` is passed with `depth` brackets open, and
the text before the address, last character first. -/
def firstMail? (depth : Int) (before : List Char) : List Char → Option (List Char × Found)
  | [] => none
  | c :: cs =>
    let depth := if c = '[' then depth + 1 else if c = ']' then depth - 1 else depth
    let found? := if c = '@' ∧ depth ≤ 0 then mail? before cs else none
    match found? with
    | some found => some (before.drop found.taken, found)
    | none => firstMail? depth (c :: before) cs

def Found.link (found : Found) : Span := .link found.url [] [.text found.shown]

/-- A text with its mail addresses made links. The text before an address stays, even an empty
one. -/
def split (cs : List Char) : List Span :=
  match firstMail? 0 [] cs with
  | none => [.text cs]
  | some (before, found) =>
    let behind :=
      if !found.rest.isEmpty ∧ found.rest.length < cs.length then split found.rest else []
    .text before.reverse :: found.link :: behind
termination_by cs.length

mutual

/-- Makes links of the mail addresses in the texts of a span. -/
def inSpan : Span → List Span
  | .text content => split content
  | .emphasis strong children => [.emphasis strong (inSpans children)]
  | .strikethrough children => [.strikethrough (inSpans children)]
  | span => [span]

def inSpans : List Span → List Span
  | [] => []
  | span :: spans => inSpan span ++ inSpans spans

end

end NoteBridge.Markdown.Autolink
