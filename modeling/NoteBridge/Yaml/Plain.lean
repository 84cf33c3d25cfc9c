import NoteBridge.Number.Reader
import NoteBridge.Number.Word
import NoteBridge.Text.Blank

/-!
What plain scalars mean: null, a truth value, a number, or else their own text. Digits behind a
leading zero are text.
-/

namespace NoteBridge.Yaml

open Number

inductive Plain
  | null
  | bool (value : Bool)
  | int (value : Int)
  | real (value : Double)
  | text

namespace Plain

def nulls : List String := ["null", "Null", "NULL", "~"]

def truths : List String := ["true", "True", "TRUE"]

def falsehoods : List String := ["false", "False", "FALSE"]

def bool? (s : String) : Option Bool :=
  if truths.contains s then some true else if falsehoods.contains s then some false else none

def isZeroPadded (cs : List Char) : Bool :=
  match (sign cs).2 with
  | '0' :: rest => !rest.isEmpty && rest.all isDigit
  | _ => false

/-- A number without sign: in a base of its own, marked by two characters, or in decimal. -/
def natural? (cs : List Char) : Option Nat :=
  let marked? := match cs with
    | '0' :: 'x' :: rest => inBase? 16 rest
    | '0' :: 'o' :: rest => inBase? 8 rest
    | '0' :: 'b' :: rest => inBase? 2 rest
    | _ => none
  marked? <|> if isZeroPadded cs then none else inBase? 10 cs

/-- The integers that plain scalars can be: 128 bits with or without a sign. -/
def int? (cs : List Char) : Option Int :=
  match cs with
  | '-' :: rest => do
    let n ← natural? rest
    if fitsSigned 128 (-(n : Int)) then some (-(n : Int)) else none
  | _ => do
    let n ← natural? (match cs with | '+' :: rest => rest | _ => cs)
    if fitsUnsigned 128 n then some n else none

def infinities : List String := [".inf", ".Inf", ".INF"]

def notNumbers : List String := [".nan", ".NaN", ".NAN"]

/-- A finite double in its common written form, or one of the words for the others. -/
def double? (cs : List Char) : Option Double :=
  let isInfinity (cs : List Char) : Bool := infinities.contains (String.ofList cs)
  let (negative, rest) := sign cs
  if isInfinity rest then some (Double.infinity negative)
  else if notNumbers.contains (String.ofList cs) then some Double.notANumber
  else (Number.double? cs).filter Double.isFinite

/-- The meaning of a plain scalar. -/
def ofText (cs : List Char) : Plain :=
  let s := String.ofList cs
  if cs.isEmpty || nulls.contains s then null
  else
    match bool? s with
    | some value => bool value
    | none =>
      match int? cs with
      | some value => int value
      | none =>
        if isZeroPadded cs then text
        else
          match double? cs with
          | some value => real value
          | none => text

end Plain
end NoteBridge.Yaml
