import NoteBridge.Url.Composition
import NoteBridge.Url.Direction
import NoteBridge.Url.Ip
import NoteBridge.Url.Label

/-!
Which addresses a page can fetch: absolute `http` and `https` addresses that parse. Parsing follows
the living standard for addresses as far as it decides whether there is an address at all: blanks
around it, tabs and line ends are ignored, slashes after the scheme are optional, and what can be
wrong is the scheme, the host and the port.
-/

namespace NoteBridge.Url

open Text

def isControlOrSpace (c : Char) : Bool := c.toNat ≤ 0x20

def isIgnored (c : Char) : Bool := c == '\t' || c == '\n' || c == '\r'

def cleaned (cs : List Char) : List Char :=
  (dropEndWhile isControlOrSpace (cs.dropWhile isControlOrSpace)).filter (!isIgnored ·)

/-- The scheme in small letters, and what follows its colon. -/
def scheme? (cs : List Char) : Option (List Char × List Char) :=
  let isSchemeChar (c : Char) : Bool := c.isAlphanum || c == '+' || c == '-' || c == '.'
  match cs with
  | c :: _ =>
    if c.isAlpha then
      match cs.dropWhile isSchemeChar with
      | ':' :: rest => some (toAsciiLower (cs.takeWhile isSchemeChar), rest)
      | _ => none
    else none
  | [] => none

def isSlash (c : Char) : Bool := c == '/' || c == '\\'

def endsAuthority (c : Char) : Bool := isSlash c || c == '?' || c == '#'

/-- The host and what follows it; a colon inside brackets belongs to the host. -/
def hostOf (insideBrackets : Bool) : List Char → List Char × List Char
  | [] => ([], [])
  | c :: cs =>
    if c = ':' ∧ !insideBrackets then ([], c :: cs)
    else
      let inside := c == '[' || (c != ']' && insideBrackets)
      let (host, rest) := hostOf inside cs
      (c :: host, rest)

/-- A percent sign and two hexadecimal digits stand for a byte. -/
def percentDecoded : List Char → List UInt8
  | '%' :: a :: b :: rest =>
    match Number.inBase? 16 [a, b] with
    | some n => UInt8.ofNat n :: percentDecoded rest
    | none => 0x25 :: percentDecoded (a :: b :: rest)
  | c :: rest => (String.singleton c).toUTF8.toList ++ percentDecoded rest
  | [] => []

/-- Characters that a domain name may not contain. -/
def isForbidden (c : Char) : Bool :=
  c.toNat ≤ 0x20 || c == '\x7f' || "%#/:<>?@[\\]^|".contains c

/-- The characters of a name once their forms are settled, composed. -/
def domainText? (host : List Char) : Option (List Char) := do
  let decoded ← String.fromUTF8? (ByteArray.mk (percentDecoded host).toArray)
  let pieces ← decoded.toList.mapM HostCharacter.read?
  some (Composition.composed pieces.flatten)

def isDomain (host : List Char) : Bool :=
  match domainText? host with
  | none => false
  | some domain =>
    !domain.isEmpty && !domain.any isForbidden &&
      ((domainParts domain).mapM label?).any isOrderly &&
      (!endsInNumber domain || isIpv4 domain)

def isHost (host : List Char) : Bool :=
  match host with
  | '[' :: rest => rest.getLast? == some ']' && isIpv6 rest.dropLast
  | [] => false
  | _ => isDomain host

def isPort (cs : List Char) : Bool :=
  cs.all Number.isDigit && Number.natOfDigits cs < Number.wordSize 16

/-- Whether the text after the scheme of a web address leads to a host. Names and passwords end at
the last at sign. -/
def hasAuthority (cs : List Char) : Bool :=
  let authority := (cs.dropWhile isSlash).takeWhile (!endsAuthority ·)
  let server := takeEndWhile (· != '@') authority
  let (host, rest) := hostOf false server
  isHost host && isPort (rest.drop 1)

def isRemote (url : String) : Bool :=
  match scheme? (cleaned url.toList) with
  | some (scheme, rest) =>
    (scheme == ['h', 't', 't', 'p'] || scheme == ['h', 't', 't', 'p', 's']) && hasAuthority rest
  | none => false

end NoteBridge.Url
