import NoteBridge.Number.Reader
import NoteBridge.Number.Word
import NoteBridge.Text.Search
import NoteBridge.Url.Composition
import NoteBridge.Url.HostCharacter
import NoteBridge.Url.Joiner

/-!
Labels, the parts of a domain name. Characters beyond ASCII stand in a label as they are, or
encoded: behind a mark come the plain characters of the label, a hyphen, and numbers that say which
other characters go where.
-/

namespace NoteBridge.Url

open Text

/-! ### Encoded characters -/

/-- The value of a letter or digit in the encoding of labels. -/
def labelDigit? (c : Char) : Option Nat :=
  if 'a' ≤ c && c ≤ 'z' then some (c.toNat - 'a'.toNat)
  else if Number.isDigit c then some (Number.digitValue c + 26)
  else none

/-- A digit below the threshold of its place is the last one of its number. -/
def threshold (bias place : Nat) : Nat := min (max (place - bias) 1) 26

/-- A number of variable length, the least digit first. -/
def variableLength? (bias value weight place : Nat) : List Char → Option (Nat × List Char)
  | [] => none
  | c :: rest =>
    match labelDigit? c with
    | none => none
    | some d =>
      let value := value + d * weight
      if Number.wordSize 32 ≤ value then none
      else if d < threshold bias place then some (value, rest)
      else variableLength? bias value (weight * (36 - threshold bias place)) (place + 36) rest

theorem length_variableLength?_lt {bias value weight place : Nat} {cs rest : List Char} {n : Nat}
    (h : variableLength? bias value weight place cs = some (n, rest)) :
    rest.length < cs.length := by
  induction cs generalizing value weight place with
  | nil => simp [variableLength?] at h
  | cons c cs ih =>
    unfold variableLength? at h
    split at h
    · cases h
    · simp only at h
      split at h
      · cases h
      · split at h
        · cases h
          simp
        · exact Nat.lt_succ_of_lt (ih h)

/-- The bias for the next number, from the size of the last one. -/
def nextBias : Nat → Nat → Nat → Nat
  | 0, size, bias => bias + 36 * size / (size + 38)
  | steps + 1, size, bias =>
    if 455 < size then nextBias steps (size / 35) (bias + 36) else bias + 36 * size / (size + 38)

/-- Puts the encoded characters into a label. Each number says how far the next character lies
behind the last one, in the order of code points and then of places. -/
def decodeInto? (code place bias : Nat) (label encoded : List Char) : Option (List Char) :=
  if encoded.isEmpty then some label
  else
    match h : variableLength? bias place 1 36 encoded with
    | none => none
    | some (value, rest) =>
      have := length_variableLength?_lt h
      let count := label.length + 1
      let code := code + value / count
      if 0x110000 ≤ code || (0xD800 ≤ code && code ≤ 0xDFFF) then none
      else
        let size := (value - place) / (if place == 0 then 700 else 2)
        decodeInto? code (value % count + 1) (nextBias 8 (size + size / count) 0)
          (label.insertIdx (value % count) (Char.ofNat code)) rest
termination_by encoded.length

/-! ### Labels -/

/-- Whether a label begins with a character that can stand by itself, and its joiners fit. -/
def isWellFormed (label : List Char) : Bool := !label.head?.any isMark && Joiner.allFit [] label

/-- The characters that a label stands for. With the mark of the encoding it must hold encoded
characters and be plain otherwise, and it must not stand for what a name would not keep as it is. -/
def label? (label : List Char) : Option (List Char) :=
  match after? ['x', 'n', '-', '-'] label with
  | none => if isWellFormed label then some label else none
  | some code =>
    let plain := (dropEndWhile (· != '-') code).dropLast
    -- A hyphen with nothing before it ends no plain part, so that it is read as encoded.
    let encoded := if plain.isEmpty then code else takeEndWhile (· != '-') code
    if encoded.isEmpty || plain.any (0x80 ≤ ·.toNat) then none
    else
      (decodeInto? 128 0 72 plain encoded).filter fun decoded =>
        isWellFormed decoded && decoded.all HostCharacter.isSettled &&
          Composition.composed decoded == decoded

end NoteBridge.Url
