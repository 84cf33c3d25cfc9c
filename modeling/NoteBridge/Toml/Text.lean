import NoteBridge.Number.Reader
import NoteBridge.Text.Lines

/-!
Texts of TOML: in one kind of quotes with escapes, in the other kind as they are, and both on one
line or, in three quotes, on several. Control characters other than the tab stand in none of them.
-/

namespace NoteBridge.Toml

open Text (isSpaceOrTab afterLineEnd?)

/-- Whether a character may stand for itself. -/
def isPlain (c : Char) : Bool := c == '\t' || (' ' ≤ c && c != '\x7f')

/-- The characters that a letter behind a backslash stands for. -/
def escapes : List (Char × Char) :=
  [('b', '\x08'), ('t', '\t'), ('n', '\n'), ('f', '\x0c'), ('r', '\r'), ('\"', '\"'), ('\\', '\\')]

/-- How many hexadecimal digits follow a letter behind a backslash. -/
def escapeDigits : List (Char × Nat) := [('u', 4), ('U', 8)]

def characterOf? (count : Nat) (cs : List Char) : Option Char := do
  let n ← Number.inBase? 16 (cs.take count)
  if count ≤ cs.length ∧ n.isValidChar then some (Char.ofNat n) else none

/-- The character of an escape and the number of its characters, from behind the backslash. -/
def escape? : List Char → Option (Char × Nat)
  | [] => none
  | c :: cs =>
    match escapes.lookup c, escapeDigits.lookup c with
    | some d, _ => some (d, 1)
    | none, some count => (characterOf? count cs).map (·, count + 1)
    | none, none => none

/-- The content of a text on one line, and what follows the quote that ends it. -/
def lineText? (quote : Char) : List Char → Option (List Char × List Char)
  | [] => none
  | c :: cs =>
    if c = quote then some ([], cs)
    else if c = '\\' ∧ quote = '\"' then
      match escape? cs with
      | some (escaped, count) =>
        (lineText? quote (cs.drop count)).map fun (content, rest) => (escaped :: content, rest)
      | none => none
    else if isPlain c then
      (lineText? quote cs).map fun (content, rest) => (c :: content, rest)
    else none
termination_by cs => cs.length

/-- The text behind blanks and line ends. -/
def skipBlank : List Char → List Char
  | [] => []
  | c :: cs =>
    if isSpaceOrTab c || c == '\n' then skipBlank cs
    else
      match c, cs with
      | '\r', '\n' :: rest => skipBlank rest
      | _, _ => c :: cs

/-- The text behind a line end that a backslash takes away, with the blanks around it. -/
def afterJoin? (cs : List Char) : Option (List Char) :=
  (afterLineEnd? (cs.dropWhile isSpaceOrTab)).map skipBlank

/-- The quotes that belong to the content when three or more stand in a row, and what follows the
row. At most two are content; more are not the end of any text. -/
def closing? (quote : Char) (cs : List Char) : Option (List Char × List Char) :=
  let count := min (cs.takeWhile (· == quote)).length 5
  if 3 ≤ count then some (List.replicate (count - 3) quote, cs.drop count) else none

theorem length_skipBlank_le (cs : List Char) : (skipBlank cs).length ≤ cs.length := by
  fun_induction skipBlank cs with
  | case1 => simp
  | case2 c cs _ ih => simp only [List.length_cons]; omega
  | case3 rest _ ih => simp only [List.length_cons]; omega
  | case4 => simp

theorem length_afterLineEnd?_lt {cs rest : List Char} (h : afterLineEnd? cs = some rest) :
    rest.length < cs.length := by
  unfold afterLineEnd? at h
  split at h
  · cases h
    exact Nat.lt_succ_self _
  · cases h
    simp only [List.length_cons]
    omega
  · cases h

theorem length_dropWhile_le (p : Char → Bool) (cs : List Char) :
    (cs.dropWhile p).length ≤ cs.length :=
  (List.dropWhile_sublist p).length_le

theorem length_afterJoin?_lt {cs rest : List Char} (h : afterJoin? cs = some rest) :
    rest.length < cs.length := by
  obtain ⟨behind, hb, rfl⟩ := Option.map_eq_some_iff.1 h
  have h₁ := length_afterLineEnd?_lt hb
  have h₂ := length_dropWhile_le isSpaceOrTab cs
  have h₃ := length_skipBlank_le behind
  omega

/-- The content of a text on several lines, and what follows it. -/
def blockText? (quote : Char) (cs : List Char) : Option (List Char × List Char) :=
  match closing? quote cs with
  | some closed => some closed
  | none =>
    match cs with
    | [] => none
    | c :: behind =>
      if c = '\\' ∧ quote = '\"' then
        match _join : afterJoin? behind with
        | some rest => blockText? quote rest
        | none =>
          match escape? behind with
          | some (escaped, count) =>
            (blockText? quote (behind.drop count)).map fun (content, rest) =>
              (escaped :: content, rest)
          | none => none
      else if isPlain c then
        (blockText? quote behind).map fun (content, rest) => (c :: content, rest)
      else
        match _end : afterLineEnd? (c :: behind) with
        | some rest => (blockText? quote rest).map fun (content, rest) => ('\n' :: content, rest)
        | none => none
termination_by cs.length
decreasing_by
  · have := length_afterJoin?_lt _join
    simp only [List.length_cons]
    omega
  · simp only [List.length_cons, List.length_drop]
    omega
  · simp
  · exact length_afterLineEnd?_lt _end

def isQuote (c : Char) : Bool := c == '\"' || c == '\''

/-- A text on one line. -/
def quoted? : List Char → Option (List Char × List Char)
  | quote :: cs => if isQuote quote then lineText? quote cs else none
  | [] => none

/-- A text on one line or on several, whose first line end does not count when it follows the
quotes. -/
def text? (cs : List Char) : Option (List Char × List Char) :=
  match cs with
  | a :: b :: c :: rest =>
    if isQuote a ∧ b = a ∧ c = a then blockText? a ((afterLineEnd? rest).getD rest) else quoted? cs
  | _ => quoted? cs

end NoteBridge.Toml
