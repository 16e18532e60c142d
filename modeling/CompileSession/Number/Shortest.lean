import CompileSession.Number.Binary64

/-!
# The shortest decimal that reads back

A number is written with the fewest digits that name it among the numbers of its format; of two
decimals with as few digits the one nearer to it is taken. Numbers from 10^-5 up to, not including,
10^16 are written positionally with at least one place after the point, all others with one digit
before the point and an exponent.
-/

namespace CompileSession.Binary64

/-- The reals that round to a magnitude, as bounds over a common denominator. The bounds belong to
them if `closed`. -/
structure Span where
  low : Nat
  value : Nat
  high : Nat
  den : Nat
  closed : Bool

/-- The reals that round to `x`: half way to its neighbours, of which the lower one is at half the
distance where the exponent changes. The bounds round to `x` if its significand is even. -/
def span (x : Binary64) : Span :=
  let m := x.significand
  let below := if m = Nat.pow 2 52 ∧ minExponent < x.exponent then 1 else 2
  let unit := scaled 1 4 (-x.exponent)
  ⟨(4 * m - below) * unit.1, 4 * m * unit.1, (4 * m + 2) * unit.1, unit.2, m % 2 == 0⟩

/-- Whether `num / den` rounds to the number with span `s`. -/
def Span.holds (s : Span) (num den : Nat) : Bool :=
  if s.closed then s.low * den ≤ num * s.den && num * s.den ≤ s.high * den
  else s.low * den < num * s.den && num * s.den < s.high * den

/-- Raises `k` while `10 ^ (k + 1)` is at most `num / den`, at most `steps` times. -/
def climb (num den : Nat) : Nat → Int → Int
  | 0, k => k
  | steps + 1, k =>
    let above := if 0 ≤ k + 1 then Nat.pow 10 (k + 1).toNat * den ≤ num
      else den ≤ num * Nat.pow 10 (-(k + 1)).toNat
    if above then climb num den steps (k + 1) else k

/-- The exponent of the leading decimal digit of `num / den`. The estimate from the binary
logarithms is at most three too low. -/
def leading (num den : Nat) : Int :=
  climb num den 4 (((num.log2 : Int) - den.log2 - 1) * 30103 / 100000 - 1)

/-- A decimal `digits * 10 ^ power`. -/
structure Decimal where
  digits : Nat
  power : Int
deriving DecidableEq, Repr

/-- A decimal as numerator and denominator. -/
def Decimal.ratio (d : Decimal) : Nat × Nat :=
  if 0 ≤ d.power then (d.digits * Nat.pow 10 d.power.toNat, 1)
  else (d.digits, Nat.pow 10 (-d.power).toNat)

/-- The decimal nearest to the number with span `s` among its two neighbours with the given power,
if one of them rounds to the number; of two equally near the even one. -/
def nearest? (s : Span) (power : Int) : Option Decimal :=
  let grid := if 0 ≤ power then (s.value, s.den * Nat.pow 10 power.toNat)
    else (s.value * Nat.pow 10 (-power).toNat, s.den)
  let down : Decimal := ⟨grid.1 / grid.2, power⟩
  let up : Decimal := ⟨grid.1 / grid.2 + 1, power⟩
  let fits (d : Decimal) : Bool := s.holds d.ratio.1 d.ratio.2
  let rest := grid.1 % grid.2
  if fits down && fits up then
    some (if roundEven grid.1 grid.2 = down.digits then down else up)
  else if fits down && (rest = 0 || !fits up) then some down
  else if fits up then some up
  else none

/-- The first decimal that reads back, trying `count` digits and more, at most `steps` times. -/
def shortestFrom (s : Span) (lead : Int) : Nat → Nat → Decimal
  | 0, _ => ⟨0, 0⟩
  | steps + 1, count =>
    match nearest? s (lead - count + 1) with
    | some d => d
    | none => shortestFrom s lead steps (count + 1)

/-- The shortest decimal that reads back as the magnitude of `x`, which is not zero. -/
def shortest (x : Binary64) : Decimal :=
  let s := x.span
  shortestFrom s (leading s.value s.den) 17 1

/-- How numbers are written: positionally if the exponent of the leading digit is at least
`positionalFrom` and less than `positionalTo`. -/
structure Format where
  positionalFrom : Int
  positionalTo : Int

/-- Numbers in documents and messages. -/
def format : Format := ⟨-5, 16⟩

/-- The digits of a decimal without zeros at their end. -/
def significant (d : Decimal) : List Char :=
  ((Nat.toDigits 10 d.digits).reverse.dropWhile (· == '0')).reverse

/-- `digits` with a point after the first `place` of them, zeros filling up either side. -/
def positional (digits : List Char) (place : Int) : List Char :=
  if place ≤ 0 then '0' :: '.' :: List.replicate (-place).toNat '0' ++ digits
  else
    let whole := place.toNat
    if digits.length ≤ whole then
      digits ++ List.replicate (whole - digits.length) '0' ++ ['.', '0']
    else digits.take whole ++ '.' :: digits.drop whole

/-- `digits` with a point after the first, and the exponent of that first digit. -/
def scientific (digits : List Char) (exponent : Int) : List Char :=
  let fraction := digits.drop 1
  let mark := if exponent < 0 then ['e', '-'] else ['e', '+']
  digits.take 1 ++ (if fraction.isEmpty then [] else '.' :: fraction) ++ mark
    ++ Nat.toDigits 10 exponent.natAbs

/-- The text of a number. -/
def text (x : Binary64) : String :=
  let sign := if x.negative then ['-'] else []
  if x.isZero then String.ofList (sign ++ ['0', '.', '0'])
  else
    let d := x.shortest
    let exponent := d.power + (Nat.toDigits 10 d.digits).length - 1
    let digits := significant d
    String.ofList (sign ++
      if format.positionalFrom ≤ exponent ∧ exponent < format.positionalTo then
        positional digits (exponent + 1)
      else scientific digits exponent)

end CompileSession.Binary64
