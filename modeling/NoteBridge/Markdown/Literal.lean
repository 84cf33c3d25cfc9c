import NoteBridge.Markdown.CharacterNames
import NoteBridge.Number.Reader
import NoteBridge.Text.Punctuation

/-!
Literal text behind the escapes of Markdown. A backslash makes the punctuation after it literal; an
ampersand begins a reference to a character, by its number or by its name. What is no escape stands
for itself.
-/

namespace NoteBridge.Markdown

open Text Number

/-- Removes the backslashes that stand before punctuation. -/
def unescape : List Char → List Char
  | [] => []
  | [c] => [c]
  | c :: d :: cs =>
    if c = '\\' ∧ isAsciiPunctuation d then d :: unescape cs else c :: unescape (d :: cs)

namespace CharacterReference

def replacement : Char := '\uFFFD'

/-- The character of a number; the replacement character where there is none. -/
def character (code : Nat) : Char :=
  if code = 0 ∨ (0xD800 ≤ code ∧ code ≤ 0xE000) ∨ 0x110000 ≤ code then replacement
  else Char.ofNat code

def hexadecimal (digits : List Char) : Nat := (inBase? 16 digits).getD 0

/-- The most digits of a number. -/
def digitLimit : Nat := 7

/-- The character behind digits that a semicolon ends, when they are not too many. -/
def numbered? (isDigit : Char → Bool) (value : List Char → Nat) (cs : List Char) :
    Option (List Char × List Char) :=
  let digits := cs.takeWhile isDigit
  match cs.dropWhile isDigit with
  | ';' :: rest =>
    if digits.isEmpty ∨ digitLimit < digits.length then none
    else some ([character (value digits)], rest)
  | _ => none

/-- The names and their texts. -/
def names : List (List Char × List Char) :=
  (words namedCharacters.toList).filterMap fun entry =>
    (cut? ['='] entry).map fun (name, codes) =>
      (name, (splitWhere (· == '+') codes).map fun code => Char.ofNat (hexadecimal code))

def named? (cs : List Char) : Option (List Char × List Char) :=
  match cs.dropWhile (· != ';') with
  | ';' :: rest => (names.lookup (cs.takeWhile (· != ';'))).map fun text => (text, rest)
  | _ => none

/-- The text of a reference and what follows it, from behind the ampersand. -/
def read? (cs : List Char) : Option (List Char × List Char) :=
  match cs with
  | '#' :: 'x' :: rest | '#' :: 'X' :: rest =>
    numbered? (fun c => (digitIn? 16 c).isSome) hexadecimal rest
  | '#' :: rest => numbered? isDigit natOfDigits rest
  | _ => named? cs

end CharacterReference

/-- Puts the characters for the references. -/
def decode : List Char → List Char
  | [] => []
  | c :: cs =>
    if c = '&' then
      match CharacterReference.read? cs with
      | some (text, rest) =>
        if rest.length < cs.length then text ++ decode rest else text
      | none => c :: decode cs
    else c :: decode cs
termination_by cs => cs.length

/-- The text that an address, a title or an information string stands for. -/
def literal (cs : List Char) : List Char := unescape (decode cs)

end NoteBridge.Markdown
