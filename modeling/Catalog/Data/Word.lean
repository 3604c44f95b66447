/-!
# Sixty-four-bit words

Counters, totals and identifiers are 64-bit words, signed or unsigned, and arithmetic on them
wraps around: the result is the true value reduced modulo `2 ^ 64` into the word's range. An
integer read from a request is taken as a word only when it lies in the word's range.

Main statements:

* `unsigned_lt` — an unsigned word lies below the modulus.
* `unsigned_of_lt` — a value in range is its own unsigned word.
-/

namespace Catalog.Word

/-- The number of values of a 64-bit word. -/
def modulus : Nat := 18446744073709551616

/-- The least value that no signed 64-bit word reaches. -/
def signedBound : Int := 9223372036854775808

/-- The unsigned word of a natural number: its remainder modulo `2 ^ 64`. -/
def unsigned (n : Nat) : Nat :=
  n % modulus

/-- The signed word of an integer: the value congruent to it modulo `2 ^ 64` in
`[-2 ^ 63, 2 ^ 63)`, as two's complement reads the low 64 bits. -/
def signed (n : Int) : Int :=
  Int.bmod n modulus

/-- Whether an integer is a signed 64-bit word. -/
def isSigned (n : Int) : Bool :=
  -signedBound ≤ n && n < signedBound

/-- Whether an integer is an unsigned 64-bit word. -/
def isUnsigned (n : Int) : Bool :=
  0 ≤ n && n < modulus

/-- An unsigned word lies below the modulus. -/
theorem unsigned_lt (n : Nat) : unsigned n < modulus :=
  Nat.mod_lt n (by decide)

/-- A value below the modulus is its own unsigned word. -/
theorem unsigned_of_lt {n : Nat} (h : n < modulus) : unsigned n = n :=
  Nat.mod_eq_of_lt h

end Catalog.Word
