import NoteBridge.Json.Basic
import NoteBridge.Number.Layout
import NoteBridge.Number.Reader
import NoteBridge.Number.Word
import NoteBridge.Text.Small

/-!
What a setting asks of its value. Texts, numbers and truth values stand for each other where that
makes sense; a value of another type and a value of another shape are different faults. The fields
of a group are all read before one that is missing is a fault.
-/

namespace NoteBridge.Configuration

open Text (toSmall)

inductive Fault
  | unreadableText
  | missingFile
  | malformedPath
  | wrongType
  | wrongShape
deriving DecidableEq, Repr

abbrev Setting (α : Type) := Json → Except Fault α

def trueWords : List String := ["true", "on", "yes"]

def falseWords : List String := ["false", "off", "no"]

/-- An unsigned decimal number, which a plus sign may precede. -/
def digits? (cs : List Char) : Option Nat :=
  Number.inBase? 10 (match cs with | '+' :: rest => rest | _ => cs)

def naturalOfText? (cs : List Char) : Option Nat :=
  let word := String.ofList (toSmall cs)
  if trueWords.contains word then some 1
  else if falseWords.contains word then some 0
  else (digits? cs).filter fun n => Number.fitsUnsigned 64 n

/-- The nearest number of 64 bits without a sign. -/
def naturalOfDouble (x : Double) : Nat :=
  match x.roundAway? with
  | some n => min n.toNat (Number.wordSize 64 - 1)
  | none => if x.isNaN || x.negative then 0 else Number.wordSize 64 - 1

def natural : Setting Nat
  | .int n => if 0 ≤ n then .ok n.toNat else .error .wrongType
  | .real x => .ok (naturalOfDouble x)
  | .bool value => .ok value.toNat
  | .str s =>
    match naturalOfText? s.toList with
    | some n => .ok n
    | none => .error .wrongType
  | _ => .error .wrongType

def text : Setting String
  | .str s => .ok s
  | .bool value => .ok (toString value)
  | .int n => .ok (toString n)
  | .real x => .ok (Layout.plain.format x)
  | _ => .error .wrongType

/-- One of several cases, by its name in any case of letters or by a table whose only key is its
name. -/
def oneOf (cases : List (String × α)) (value : Json) : Except Fault α :=
  let choose (name : String) : Except Fault α :=
    match cases.find? fun entry => toSmall entry.1.toList == toSmall name.toList with
    | some (_, choice) => .ok choice
    | none => .error .wrongShape
  match value with
  | .str name => choose name
  | .obj [(name, _)] => choose name
  | _ => .error .wrongShape

def listOf (item : Setting α) : Setting (List α)
  | .arr items => items.mapM item
  | _ => .error .wrongShape

/-- The fields of a group: a table has them by name, a list in order. -/
def group (names : List String) : Setting (List (Option Json))
  | .obj fields => .ok (names.map fun name => Entries.find? name fields)
  | .arr items => .ok ((List.range names.length).map fun i => items[i]?)
  | _ => .error .wrongShape

/-- The value of a field that is there. -/
def given (setting : Setting α) : Option Json → Except Fault (Option α)
  | none => .ok none
  | some value => (setting value).map some

def needed : Option α → Except Fault α
  | none => .error .wrongShape
  | some value => .ok value

end NoteBridge.Configuration
