import NoteBridge.Number.Reader
import NoteBridge.Text.Search

/-!
Hosts that are numbers. The fourth version has up to four numbers between full stops, each one
decimal, octal or hexadecimal; the sixth has groups of 16 bits between colons, and may end in
dotted decimal.
-/

namespace NoteBridge.Url

open Text

/-! ### The fourth version -/

def isIpv4Number (part : List Char) : Bool :=
  match part with
  | [] => false
  | '0' :: 'x' :: digits => digits.all fun c => (Number.digitIn? 16 c).isSome
  | '0' :: c :: digits => (c :: digits).all fun c => '0' ≤ c && c ≤ '7'
  | digits => digits.all Number.isDigit

def ipv4Number? (part : List Char) : Option Nat :=
  if !isIpv4Number part then none
  else
    match part with
    | ['0', 'x'] => some 0
    | '0' :: 'x' :: digits => Number.inBase? 16 digits
    | '0' :: c :: digits => Number.inBase? 8 (c :: digits)
    | digits => Number.inBase? 10 digits

def domainParts (domain : List Char) : List (List Char) := splitWhere (· == '.') domain

/-- The parts of a domain, a full stop at its end left out. -/
def trimmedParts (domain : List Char) : List (List Char) :=
  let parts := domainParts domain
  if 1 < parts.length && parts.getLast? == some [] then parts.dropLast else parts

def endsInNumber (domain : List Char) : Bool :=
  match (trimmedParts domain).getLast? with
  | some last => (!last.isEmpty && last.all Number.isDigit) || isIpv4Number last
  | none => false

/-- At most four numbers, all but the last below 256 and the last small enough for the places that
the others leave. -/
def isIpv4 (domain : List Char) : Bool :=
  let parts := trimmedParts domain
  match parts.mapM ipv4Number? with
  | none => false
  | some numbers =>
    match numbers.reverse with
    | [] => false
    | last :: others =>
      numbers.length ≤ 4 && others.all (· < 256) && last < Nat.pow 256 (4 - others.length)

/-! ### The sixth version -/

/-- Dotted decimal inside an address of the sixth version. -/
def isDottedQuad (cs : List Char) : Bool :=
  let parts := domainParts cs
  let isByte (part : List Char) : Bool :=
    !part.isEmpty && part.all Number.isDigit && (part.length == 1 || part.head? != some '0') &&
      part.length ≤ 3 && Number.natOfDigits part < 256
  parts.length == 4 && parts.all isByte

def isHexGroup (cs : List Char) : Bool :=
  !cs.isEmpty && cs.length ≤ 4 && cs.all fun c => (Number.digitIn? 16 c).isSome

/-- The count of 16-bit groups in a list of groups between colons, of which the last may be dotted
decimal where `last` allows it. -/
def groupCount? (last : Bool) (groups : List (List Char)) : Option Nat :=
  match groups with
  | [] => some 0
  | [group] =>
    if isHexGroup group then some 1
    else if last && isDottedQuad group then some 2
    else none
  | group :: rest => if isHexGroup group then (groupCount? last rest).map (· + 1) else none

def groupsOf (cs : List Char) : List (List Char) :=
  if cs.isEmpty then [] else splitWhere (· == ':') cs

/-- Eight groups, or fewer around one pair of colons. -/
def isIpv6 (cs : List Char) : Bool :=
  match cut? [':', ':'] cs with
  | none => groupCount? true (groupsOf cs) == some 8
  | some (before, after) =>
    match groupCount? false (groupsOf before), groupCount? true (groupsOf after) with
    | some a, some b => a + b ≤ 7
    | _, _ => false

end NoteBridge.Url
