import NoteBridge.Markdown.Span
import NoteBridge.Text.Punctuation

/-!
Runs of delimiters: asterisks, underscores and tildes. A run can open emphasis if it stands at the
left side of a text, and close it if it stands at the right side. Each run that can close is
matched with the nearest run before it that can open; what is between the two is emphasized, and
every run that finds no partner is text.
-/

namespace NoteBridge.Markdown

open Text

/-- A run: `count` of its characters are not used yet, `length` were there at first. -/
structure Run where
  mark : Char
  count : Nat
  length : Nat
  canOpen : Bool
  canClose : Bool

namespace Run

def isPunctuation (c : Char) : Bool := Text.isPunctuation c || isSymbol c

/-- The run of `count` marks between two characters. -/
def between (mark : Char) (count : Nat) (before after : Char) : Run :=
  let left := !isBlank after && !(isPunctuation after && !isBlank before && !isPunctuation before)
  let right := !isBlank before && !(isPunctuation before && !isBlank after && !isPunctuation after)
  if mark = '_' then
    { mark, count, length := count
      canOpen := left && (!right || isPunctuation before)
      canClose := right && (!left || isPunctuation after) }
  else { mark, count, length := count, canOpen := left, canClose := right }

/-- When a run could both open and close, two runs match only if their lengths do not add up to a
multiple of three, or both are one. -/
def matchesCloser (opener closer : Run) : Bool :=
  opener.canOpen && opener.mark == closer.mark &&
    !((closer.canOpen || opener.canClose) && (opener.length + closer.length) % 3 == 0 &&
      !(opener.length % 3 == 0 && closer.length % 3 == 0))

def text (r : Run) : Span := .text (List.replicate r.count r.mark)

/-- Strong emphasis uses two characters of both runs. -/
def uses (opener closer : Run) : Nat := if 2 ≤ opener.count ∧ 2 ≤ closer.count then 2 else 1

def isFullyUsed (opener closer : Run) : Bool :=
  opener.count == uses opener closer && closer.count == uses opener closer

def emphasize (opener closer : Run) (children : List Span) : Span :=
  if opener.mark = '~' then .strikethrough children
  else .emphasis (uses opener closer == 2) children

end Run

/-- Inline content while delimiters and brackets are open. -/
inductive Piece
  | span (span : Span)
  | run (run : Run)

def Piece.settle : Piece → Span
  | span s => s
  | run r => r.text

namespace Emphasis

/-- The nearest run that matches the closer, what is between the two and what is before it, the
last piece first. -/
def opener? (closer : Run) : List Piece → Option (List Piece × Run × List Piece)
  | [] => none
  | .run r :: before =>
    if r.matchesCloser closer then some ([], r, before)
    else (opener? closer before).map fun (inner, found) => (.run r :: inner, found)
  | .span s :: before =>
    (opener? closer before).map fun (inner, found) => (.span s :: inner, found)

/-- What a closing run makes of the pieces before it. -/
inductive Closing
  | done (pieces : List Piece)
  | stuck

/-- Matches a run with those before it until it is used up or finds none. Tildes that match but are
not equally many put an end to all matching. -/
def close (closer : Run) (before : List Piece) : Closing :=
  if _hc : closer.count = 0 then .done before
  else
    match opener? closer before with
    | none => .done ((if closer.canOpen then .run closer else .span closer.text) :: before)
    | some (inner, opener, outer) =>
      if closer.mark = '~' ∧ !Run.isFullyUsed opener closer then .stuck
      else
        let span := Run.emphasize opener closer (inner.reverse.map Piece.settle)
        let left := opener.count - Run.uses opener closer
        let outer := if left = 0 then outer else .run { opener with count := left } :: outer
        close { closer with count := closer.count - Run.uses opener closer } (.span span :: outer)
termination_by closer.count
decreasing_by
  simp only [Run.uses]
  split <;> omega

/-- Goes through the pieces; those before are the last one first. -/
def resolveFrom (before : List Piece) : List Piece → List Piece
  | [] => before
  | .run r :: pieces =>
    if r.canClose then
      match close r before with
      | .done before => resolveFrom before pieces
      | .stuck => pieces.reverse ++ .run r :: before
    else resolveFrom (.run r :: before) pieces
  | .span s :: pieces => resolveFrom (.span s :: before) pieces

/-- The spans of pieces in their order. -/
def resolve (pieces : List Piece) : List Span :=
  (resolveFrom [] pieces).reverse.map Piece.settle

end Emphasis
end NoteBridge.Markdown
