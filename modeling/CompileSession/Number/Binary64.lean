/-!
# Numbers of the 64-bit binary format

A finite number of the format is a sign, a significand below 2^53 and an exponent of two. Each
operation computes its exact quotient in whole numbers and rounds once, to the nearest number of
the format with ties to the even significand, so no operation of the machine is used. A result past
the greatest finite number is `none`.
-/

namespace CompileSession

/-- A finite number `± significand * 2 ^ exponent`. -/
structure Binary64 where
  negative : Bool
  significand : Nat
  exponent : Int
deriving DecidableEq, Repr

namespace Binary64

/-- The least exponent of the format: that of zero and of the numbers near it. -/
def minExponent : Int := -1074

/-- The greatest exponent of the format. -/
def maxExponent : Int := 971

/-- Zero, with its sign. -/
def zero (negative : Bool) : Binary64 := ⟨negative, 0, minExponent⟩

/-- The number with the opposite sign. -/
def neg (x : Binary64) : Binary64 := { x with negative := !x.negative }

/-- Whether the number is zero, of either sign. -/
def isZero (x : Binary64) : Bool := x.significand == 0

/-- The whole number nearest to `num / den`, the even one of two equally near. -/
def roundEven (num den : Nat) : Nat :=
  let whole := num / den
  let rest := num % den
  if 2 * rest < den then whole
  else if den < 2 * rest then whole + 1
  else whole + whole % 2

/-- The quotient `num / den` divided by `2 ^ e`, as numerator and denominator. -/
def scaled (num den : Nat) (e : Int) : Nat × Nat :=
  if 0 ≤ e then (num, den * Nat.pow 2 e.toNat) else (num * Nat.pow 2 (-e).toNat, den)

/-- The exponent at which the significand of `num / den` has 53 bits, or the least exponent if that
is greater. -/
def exponentFor (num den : Nat) : Int :=
  let guess : Int := (num.log2 : Int) - den.log2 - 53
  let s := scaled num den guess
  let e := if s.1 < Nat.pow 2 53 * s.2 then guess else guess + 1
  max e minExponent

/-- The number of the format nearest to `num / den`, for a positive `den`. -/
def ofRatio (num den : Nat) : Option Binary64 :=
  if num = 0 then some (zero false)
  else
    let e := exponentFor num den
    let s := scaled num den e
    let m := roundEven s.1 s.2
    let r : Binary64 := if m = Nat.pow 2 53 then ⟨false, Nat.pow 2 52, e + 1⟩ else ⟨false, m, e⟩
    if r.exponent ≤ maxExponent then some r else none

/-- The magnitude of the number as numerator and denominator. -/
def ratio (x : Binary64) : Nat × Nat := scaled x.significand 1 (-x.exponent)

/-- The product of two magnitudes, rounded. -/
def mul (x y : Binary64) : Option Binary64 :=
  ofRatio (x.ratio.1 * y.ratio.1) (x.ratio.2 * y.ratio.2)

/-- The quotient of two magnitudes, rounded; `y` is not zero. -/
def div (x y : Binary64) : Option Binary64 :=
  ofRatio (x.ratio.1 * y.ratio.2) (x.ratio.2 * y.ratio.1)

/-- The number nearest to `10 ^ n`. -/
def powerOfTen (n : Nat) : Option Binary64 := ofRatio (Nat.pow 10 n) 1

/-- The greatest power of ten in the format. -/
def maxPower : Nat := 308

/-- Divides `x` by `10 ^ n`, first by `10 ^ 308` as often as `n` stays above 308 and `x` is not
zero; at most `steps` times, where `n / 308` steps are enough. -/
def lower (steps : Nat) (x : Binary64) (n : Nat) : Option Binary64 :=
  match steps with
  | 0 => (powerOfTen n).bind x.div
  | steps + 1 =>
    if n ≤ maxPower then (powerOfTen n).bind x.div
    else if x.isZero then some x
    else ((powerOfTen maxPower).bind x.div).bind fun y => lower steps y (n - maxPower)

/-- The number read from a decimal significand and a power of ten: the significand is rounded
first, and the product or quotient once more. -/
def ofDecimal (significand : Nat) (power : Int) : Option Binary64 :=
  (ofRatio significand 1).bind fun x =>
    if 0 ≤ power then
      if x.isZero then some x
      else if power ≤ maxPower then (powerOfTen power.toNat).bind x.mul
      else none
    else lower ((-power).toNat / maxPower) x (-power).toNat

end Binary64

end CompileSession
