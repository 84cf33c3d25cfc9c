/-!
Integers that fit a word: of some number of bits, with one of them for the sign or without.
-/

namespace NoteBridge.Number

/-- How many values a word of this many bits has. -/
def wordSize (bits : Nat) : Nat := Nat.pow 2 bits

def fitsUnsigned (bits : Nat) (n : Int) : Bool := 0 ≤ n && n < wordSize bits

def fitsSigned (bits : Nat) (n : Int) : Bool :=
  -(wordSize (bits - 1) : Int) ≤ n && n < wordSize (bits - 1)

end NoteBridge.Number
