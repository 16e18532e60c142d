/-!
# Whole numbers in decimal

Reading a run of ASCII digits, alone or after a sign. A reader gives `none` on an empty run, on a
sign without digits and on any other character; leading zeros are allowed and no bound is set here.
-/

namespace CompileSession.Text

/-- Whether `c` is an ASCII digit. -/
def isDigit (c : Char) : Bool := '0' ≤ c && c ≤ '9'

/-- The value of an ASCII digit. -/
def digit? (c : Char) : Option Nat :=
  if isDigit c then some (c.toNat - '0'.toNat) else none

/-- The value of a run of digits read on from `acc`. -/
def digitsFrom? (acc : Nat) : List Char → Option Nat
  | [] => some acc
  | c :: cs => (digit? c).bind fun d => digitsFrom? (10 * acc + d) cs

/-- The value of a non-empty run of digits. -/
def natural? : List Char → Option Nat
  | [] => none
  | c :: cs => digitsFrom? 0 (c :: cs)

/-- The value of a non-empty run of digits, after a plus sign or none. -/
def unsigned? : List Char → Option Nat
  | '+' :: cs => natural? cs
  | cs => natural? cs

/-- The value of a non-empty run of digits, after a plus sign, a minus sign or none. -/
def signed? : List Char → Option Int
  | '+' :: cs => (natural? cs).map Int.ofNat
  | '-' :: cs => (natural? cs).map fun n => -Int.ofNat n
  | cs => (natural? cs).map Int.ofNat

/-- The least whole number that fits 64 signed bits. -/
def minInt64 : Int := -9223372036854775808

/-- The greatest whole number that fits 64 signed bits. -/
def maxInt64 : Int := 9223372036854775807

/-- The greatest whole number that fits 64 unsigned bits. -/
def maxNat64 : Nat := 18446744073709551615

/-- Whether `i` fits 64 signed bits. -/
def fitsInt64 (i : Int) : Bool := minInt64 ≤ i && i ≤ maxInt64

/-- A signed whole number of at most 64 bits. -/
def int64? (cs : List Char) : Option Int := (signed? cs).filter fitsInt64

/-- An unsigned whole number of at most 64 bits. -/
def nat64? (cs : List Char) : Option Nat := (unsigned? cs).filter (· ≤ maxNat64)

end CompileSession.Text
