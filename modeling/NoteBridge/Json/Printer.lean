import NoteBridge.Json.Basic
import NoteBridge.Number.Layout
import NoteBridge.Text.Search

/-!
JSON text without white space. Inside a string only the quote, the backslash and the control
characters are escaped; all other characters stand for themselves.
-/

namespace NoteBridge.Json

open Text

def hexDigit (n : Nat) : Char := Nat.digitChar (n % 16)

def escapeChar (c : Char) : List Char :=
  match c with
  | '"' => ['\\', '"']
  | '\\' => ['\\', '\\']
  | '\n' => ['\\', 'n']
  | '\t' => ['\\', 't']
  | '\r' => ['\\', 'r']
  | '\x08' => ['\\', 'b']
  | '\x0c' => ['\\', 'f']
  | c =>
    if c.toNat < 0x20 then ['\\', 'u', '0', '0', hexDigit (c.toNat / 16), hexDigit c.toNat] else [c]

def quoted (s : String) : List Char := '"' :: s.toList.flatMap escapeChar ++ ['"']

def numberText : Json → String
  | int n => toString n
  | real x => Layout.json.format x
  | _ => ""

mutual

def chars : Json → List Char
  | null => ['n', 'u', 'l', 'l']
  | bool true => ['t', 'r', 'u', 'e']
  | bool false => ['f', 'a', 'l', 's', 'e']
  | int n => (numberText (int n)).toList
  | real x => (numberText (real x)).toList
  | str s => quoted s
  | arr items => '[' :: join [','] (itemChars items) ++ [']']
  | obj fields => '{' :: join [','] (fieldChars fields) ++ ['}']

def itemChars : List Json → List (List Char)
  | [] => []
  | item :: items => chars item :: itemChars items

def fieldChars : List (String × Json) → List (List Char)
  | [] => []
  | (key, value) :: fields => (quoted key ++ ':' :: chars value) :: fieldChars fields

end

def print (j : Json) : String := String.ofList j.chars

end NoteBridge.Json
