/-!
# Names beyond ASCII

Names of hosts are written in ASCII. A label with other characters becomes `xn--`, its ASCII
characters, and then digits of base 36 that tell, character by character in ascending order, how
far to go on through the characters and the places of the label to find the next insertion. How
many digits a distance takes depends on a bias that follows the distances seen so far. `encode`
writes a label, and `decode?` reads what follows the `xn--`.
-/

namespace CompileSession.Domain.Punycode

/-- The digit of value `d`, for `d` below 36: a letter, then a decimal digit. -/
def digit (d : Nat) : Char :=
  if d < 26 then Char.ofNat ('a'.toNat + d) else Char.ofNat ('0'.toNat + (d - 26))

/-- The values from which on a digit at place `place` (36, 72, …) is followed by another. -/
def threshold (place bias : Nat) : Nat := max 1 (min 26 (place - bias))

/-- A distance in digits of base 36, the least first. -/
def distance (bias place n : Nat) : List Char :=
  let t := threshold place bias
  if n < t then [digit n]
  else digit (t + (n - t) % (36 - t)) :: distance bias (place + 36) ((n - t) / (36 - t))
termination_by n
decreasing_by
  have ht : 1 ≤ threshold place bias := Nat.le_max_left _ _
  exact Nat.lt_of_le_of_lt (Nat.div_le_self _ _) (by omega)

/-- A distance brought down to at most 455, and 36 for every division on the way. -/
def scaled (n place : Nat) : Nat × Nat :=
  if 455 < n then scaled (n / 35) (place + 36) else (n, place)
termination_by n
decreasing_by exact Nat.div_lt_self (by omega) (by omega)

/-- The bias after a distance, when `count` characters are in place. The first distance counts
less, since it is a long one. -/
def adapted (n count : Nat) (first : Bool) : Nat :=
  let n := if first then n / 700 else n / 2
  let (n, place) := scaled (n + n / count) 0
  place + 36 * n / (n + 38)

/-- Where writing stands: the distance gone since the last insertion, the bias, how many characters
are in place, and what is written so far. -/
structure State where
  gone : Nat
  bias : Nat
  placed : Nat
  written : List Char

/-- Passes the character `c` of the label while those of number `m` are inserted. -/
def State.pass (basic m : Nat) (s : State) (c : Char) : State :=
  if c.toNat < m then { s with gone := s.gone + 1 }
  else if c.toNat = m then
    { gone := 0
      bias := adapted s.gone (s.placed + 1) (s.placed = basic)
      placed := s.placed + 1
      written := s.written ++ distance s.bias 36 s.gone }
  else s

/-- Puts a number in its place among numbers in strictly ascending order. -/
def insertNumber (n : Nat) : List Nat → List Nat
  | [] => [n]
  | m :: rest =>
    if n < m then n :: m :: rest
    else if n = m then m :: rest
    else m :: insertNumber n rest

/-- Inserts the characters with the numbers given in ascending order; those below `next` are in
place. -/
def State.insertAll (label : List Char) (basic next : Nat) (s : State) : List Nat → State
  | [] => s
  | m :: rest =>
    let s := { s with gone := s.gone + (m - next) * (s.placed + 1) }
    let s := label.foldl (State.pass basic m) s
    insertAll label basic (m + 1) { s with gone := s.gone + 1 } rest

/-- Whether `c` is an ASCII character. -/
def isBasic (c : Char) : Bool := c.toNat < 0x80

/-- What stands before a label that is written so. -/
def sign : List Char := "xn--".toList

/-- The ASCII form of a label. -/
def encode (label : List Char) : List Char :=
  if label.all isBasic then label
  else
    let basic := label.filter isBasic
    let numbers := ((label.filter (!isBasic ·)).map Char.toNat).foldr insertNumber []
    let s := State.insertAll label basic.length 0x80 ⟨0, 72, basic.length, []⟩ numbers
    sign ++ basic ++ (if basic.isEmpty then [] else ['-']) ++ s.written

/-! ## Reading -/

/-- The value of a digit, which may be a capital letter. -/
def digitValue? (c : Char) : Option Nat :=
  if 'a' ≤ c ∧ c ≤ 'z' then some (c.toNat - 'a'.toNat)
  else if 'A' ≤ c ∧ c ≤ 'Z' then some (c.toNat - 'A'.toNat)
  else if '0' ≤ c ∧ c ≤ '9' then some (c.toNat - '0'.toNat + 26)
  else none

/-- Numbers in a label stay below this one. -/
def limit : Nat := 0x100000000

/-- Reads the digits of a distance from the one at `place` on, whose value counts `weight` times:
`gone` with the distance added, and what follows it. -/
def readDistance (bias place weight gone : Nat) : List Char → Option (Nat × List Char)
  | [] => none
  | c :: rest =>
    match digitValue? c with
    | none => none
    | some d =>
      let gone := gone + d * weight
      let t := threshold place bias
      if limit ≤ gone then none
      else if d < t then some (gone, rest)
      else if limit ≤ weight * (36 - t) then none
      else readDistance bias (place + 36) (weight * (36 - t)) gone rest

/-- A distance takes at least one digit. -/
theorem length_lt_of_readDistance {bias place weight gone : Nat} {digits : List Char}
    {r : Nat × List Char} (h : readDistance bias place weight gone digits = some r) :
    r.2.length < digits.length := by
  induction digits generalizing place weight gone with
  | nil => simp [readDistance] at h
  | cons c rest ih =>
    unfold readDistance at h
    split at h
    · simp at h
    · dsimp only at h
      split at h
      · simp at h
      · split at h
        · cases h
          simp
        · split at h
          · simp at h
          · exact Nat.lt_succ_of_lt (ih h)

/-- Inserts into `label` the characters that `digits` tell, the first of them at a distance from the
place `start` and the character with the number `next`. -/
def insertRead (bias next start : Nat) (label digits : List Char) : Option (List Char) :=
  if digits.isEmpty then some label
  else
    match _h : readDistance bias 36 1 start digits with
    | none => none
    | some (gone, rest) =>
      let count := label.length + 1
      let number := next + gone / count
      if number.isValidChar then
        insertRead (adapted (gone - start) count (start = 0)) number (gone % count + 1)
          (label.insertIdx (gone % count) (Char.ofNat number)) rest
      else none
termination_by digits.length
decreasing_by exact length_lt_of_readDistance _h

/-- The label whose ASCII form is `text` behind its `xn--`: the ASCII characters stand before the
last hyphen, unless nothing stands before it. -/
def decode? (text : List Char) : Option (List Char) :=
  let digits := (text.reverse.takeWhile (· != '-')).reverse
  let basic := text.take (text.length - digits.length - 1)
  if basic.isEmpty then insertRead 72 0x80 0 [] text else insertRead 72 0x80 0 basic digits

end CompileSession.Domain.Punycode
