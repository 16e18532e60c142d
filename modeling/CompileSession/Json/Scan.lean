import CompileSession.Json.Fault
import CompileSession.Text.Decimal
import CompileSession.Text.Hexadecimal

/-!
# The words of a JSON text

Blanks, literal words, numerals and strings, each read off the front of the characters left. A
reader gives what it read and the rest, or the fault that stopped it. Strings come in two strengths:
`stringRest` reads the characters and asks for paired surrogates, `passString` only passes over
them.
-/

namespace CompileSession.Json

/-- What a reader gives: what it read and the characters left, or a fault. -/
abbrev Scan (α : Type) := Except Fault (α × List Char)

namespace Scan

/-- Whether `c` may stand between words. -/
def isSpace (c : Char) : Bool := c == ' ' || c == '\t' || c == '\n' || c == '\r'

/-- The characters left after the blanks in front. -/
def skipSpace (s : List Char) : List Char := s.dropWhile isSpace

/-- Refuses the character in front of `unread`, or the end of the text. -/
def refuse {α : Type} (problem : Problem) (unread : List Char) : Except Fault α :=
  .error ⟨problem, unread, 1⟩

/-- Refuses what was read just before `unread`. -/
def refusePassed {α : Type} (problem : Problem) (unread : List Char) : Except Fault α :=
  .error ⟨problem, unread, 0⟩

/-- Reads the letters `letters` and nothing else. -/
def word : List Char → List Char → Except Fault (List Char)
  | [], s => .ok s
  | _ :: _, [] => refuse .endInValue []
  | c :: letters, d :: s => if c = d then word letters s else refuse .misspelt (d :: s)

/-- Reads the colon after a name. -/
def colon (s : List Char) : Except Fault (List Char) :=
  match skipSpace s with
  | [] => refuse .endInObject []
  | c :: s => if c = ':' then .ok s else refuse .noColon (c :: s)

/-! ## Numerals -/

/-- A numeral as it is spelt: its sign, the digits before and after the point, and the sign and
digits of its exponent. -/
structure Numeral where
  negative : Bool
  whole : List Char
  fraction : List Char
  exponent : Option (Bool × List Char)
deriving DecidableEq, Repr

/-- Reads at least one digit. `atEnd` is the problem of a text that ends instead. -/
def digits (atEnd : Problem) (s : List Char) : Scan (List Char) :=
  match s with
  | [] => refuse atEnd []
  | c :: _ =>
    if Text.isDigit c then .ok (s.takeWhile Text.isDigit, s.dropWhile Text.isDigit)
    else refuse .badNumber s

/-- Reads the digits before the point; a zero in front stands alone. -/
def wholeDigits (atEnd : Problem) (s : List Char) : Scan (List Char) :=
  match s with
  | '0' :: c :: rest =>
    if Text.isDigit c then refuse .badNumber (c :: rest) else .ok (['0'], c :: rest)
  | s => digits atEnd s

/-- Reads a point and the digits after it, if there is a point. -/
def fractionDigits (atEnd : Problem) (s : List Char) : Scan (List Char) :=
  match s with
  | '.' :: s => digits atEnd s
  | s => .ok ([], s)

/-- Reads an exponent, if there is one. -/
def exponentDigits (atEnd : Problem) (s : List Char) : Scan (Option (Bool × List Char)) :=
  match s with
  | c :: s =>
    if c = 'e' ∨ c = 'E' then
      match s with
      | '+' :: s => (digits atEnd s).map fun r => (some (false, r.1), r.2)
      | '-' :: s => (digits atEnd s).map fun r => (some (true, r.1), r.2)
      | s => (digits atEnd s).map fun r => (some (false, r.1), r.2)
    else .ok (none, c :: s)
  | [] => .ok (none, [])

/-- Reads a numeral after its sign. -/
def numeral (atEnd : Problem) (negative : Bool) (s : List Char) : Scan Numeral :=
  match wholeDigits atEnd s with
  | .error f => .error f
  | .ok (whole, s) =>
    match fractionDigits atEnd s with
    | .error f => .error f
    | .ok (fraction, s) =>
      match exponentDigits atEnd s with
      | .error f => .error f
      | .ok (exponent, s) => .ok (⟨negative, whole, fraction, exponent⟩, s)

/-- The value of a digit. -/
def digitValue (c : Char) : Nat := c.toNat - '0'.toNat

/-- Takes the digits before the point into a significand of at most 64 bits. The digits from the
first that does not fit are left out and counted. -/
def gatherWhole (significand : Nat) : List Char → Nat × Nat
  | [] => (significand, 0)
  | c :: rest =>
    let next := 10 * significand + digitValue c
    if Text.maxNat64 < next then (significand, rest.length + 1) else gatherWhole next rest

/-- Takes the digits after the point into a significand of at most 64 bits, counting those taken.
From the first that does not fit the digits are dropped. -/
def gatherFraction (significand taken : Nat) : List Char → Nat × Nat
  | [] => (significand, taken)
  | c :: rest =>
    let next := 10 * significand + digitValue c
    if Text.maxNat64 < next then (significand, taken) else gatherFraction next (taken + 1) rest

/-- The greatest exponent that is read. -/
def maxExponent : Nat := 2147483647

/-- The value of the digits of an exponent read on from `acc`, or the digits left after the one
that exceeds the greatest exponent. -/
def exponentValue (acc : Nat) : List Char → Except (List Char) Nat
  | [] => .ok acc
  | c :: rest =>
    let next := 10 * acc + digitValue c
    if maxExponent < next then .error rest else exponentValue next rest

/-- A binary number with the sign of the numeral. -/
def signed (negative : Bool) (x : Binary64) : Number :=
  .binary (if negative then x.neg else x)

/-- The binary number with the given significand and power of ten, if it is finite. -/
def binaryNumber (negative : Bool) (significand : Nat) (power : Int) (rest : List Char) :
    Except Fault Number :=
  match Binary64.ofDecimal significand power with
  | some x => .ok (signed negative x)
  | none => refusePassed .numberRange rest

/-- A whole number that fits 64 bits, or the binary number nearest to it. Minus zero is binary. -/
def wholeNumber (negative : Bool) (significand : Nat) (rest : List Char) : Except Fault Number :=
  if negative then
    if significand = 0 ∨ -Text.minInt64 < significand then
      binaryNumber true significand 0 rest
    else .ok (.integer (-significand))
  else .ok (.integer significand)

/-- The value of a numeral in front of `rest`. -/
def Numeral.value (n : Numeral) (rest : List Char) : Except Fault Number :=
  let (whole, left) := gatherWhole 0 n.whole
  let (significand, taken) := gatherFraction whole 0 n.fraction
  let power : Int := left - taken
  match n.exponent with
  | none =>
    if n.fraction.isEmpty ∧ left = 0 then wholeNumber n.negative significand rest
    else binaryNumber n.negative significand power rest
  | some (down, ds) =>
    match exponentValue 0 ds with
    | .ok e => binaryNumber n.negative significand (if down then power - e else power + e) rest
    | .error unread =>
      if significand ≠ 0 ∧ !down then refusePassed .numberRange (unread ++ rest)
      else .ok (signed n.negative (.zero false))

/-- Reads a number after its sign. -/
def number (negative : Bool) (s : List Char) : Scan Number :=
  match numeral .endInValue negative s with
  | .error f => .error f
  | .ok (n, rest) => (n.value rest).map fun value => (value, rest)

/-! ## Strings -/

/-- The value of four hexadecimal digits. -/
def hex4? (a b c d : Char) : Option Nat := do
  let a ← Text.hexDigit? a
  let b ← Text.hexDigit? b
  let c ← Text.hexDigit? c
  let d ← Text.hexDigit? d
  return 4096 * a + 256 * b + 16 * c + d

/-- Reads four hexadecimal digits. Four octets are taken before they are looked at, so a text with
fewer left ends in the string, whatever they are. -/
def hex4 (s : List Char) : Scan Nat :=
  if Text.octetCount (s.take 4) < 4 then refuse .endInString []
  else
    match s with
    | a :: b :: c :: d :: rest =>
      match hex4? a b c d with
      | some n => .ok (n, rest)
      | none => .error ⟨.badEscape, s, 4⟩
    | s => .error ⟨.badEscape, s, 4⟩

/-- The character that a letter after a backslash stands for. -/
def shortEscape? (c : Char) : Option Char :=
  if c = '"' then some '"'
  else if c = '\\' then some '\\'
  else if c = '/' then some '/'
  else if c = 'b' then some '\x08'
  else if c = 'f' then some '\x0c'
  else if c = 'n' then some '\n'
  else if c = 'r' then some '\r'
  else if c = 't' then some '\t'
  else none

/-- Whether `n` is the second half of a surrogate pair. -/
def isLowSurrogate (n : Nat) : Bool := 0xdc00 ≤ n && n ≤ 0xdfff

/-- Whether `n` is the first half of a surrogate pair. -/
def isHighSurrogate (n : Nat) : Bool := 0xd800 ≤ n && n ≤ 0xdbff

/-- Reads the second half of a surrogate pair and gives the character of the pair. -/
def secondHalf (high : Nat) : List Char → Scan Char
  | [] => refuse .endInString []
  | '\\' :: [] => refuse .endInString []
  | '\\' :: 'u' :: s =>
    match hex4 s with
    | .error f => .error f
    | .ok (low, rest) =>
      if isLowSurrogate low then
        .ok (Char.ofNat (0x10000 + 0x400 * (high - 0xd800) + (low - 0xdc00)), rest)
      else refusePassed .loneSurrogate rest
  | '\\' :: s => refuse .brokenPair s
  | s => refuse .brokenPair s

/-- Reads an escape after its backslash. -/
def escape : List Char → Scan Char
  | [] => refuse .endInString []
  | c :: s =>
    if c = 'u' then
      match hex4 s with
      | .error f => .error f
      | .ok (n, rest) =>
        if isLowSurrogate n then refusePassed .loneSurrogate rest
        else if isHighSurrogate n then secondHalf n rest
        else .ok (Char.ofNat n, rest)
    else
      match shortEscape? c with
      | some e => .ok (e, s)
      | none => refuse .badEscape (c :: s)

/-- Reading four hexadecimal digits leaves less. -/
theorem hex4_length {s rest : List Char} {n : Nat} (h : hex4 s = .ok (n, rest)) :
    rest.length < s.length := by
  unfold hex4 at h
  split at h
  · simp [refuse] at h
  · split at h
    · split at h
      · injection h with h
        injection h with _ h
        subst h
        simp only [List.length_cons]
        omega
      · simp at h
    · simp at h

/-- Reading the second half of a pair leaves less. -/
theorem secondHalf_length {s rest : List Char} {high : Nat} {c : Char}
    (h : secondHalf high s = .ok (c, rest)) : rest.length < s.length := by
  unfold secondHalf at h
  split at h
  · simp [refuse] at h
  · simp [refuse] at h
  · rename_i s
    split at h
    · simp at h
    · rename_i low rest' hx
      have hl := hex4_length hx
      split at h
      · injection h with h
        injection h with _ h
        subst h
        simp only [List.length_cons]
        omega
      · simp [refusePassed] at h
  · simp [refuse] at h
  · simp [refuse] at h

/-- Reading an escape leaves less. -/
theorem escape_length {s rest : List Char} {c : Char} (h : escape s = .ok (c, rest)) :
    rest.length < s.length := by
  unfold escape at h
  split at h
  · simp [refuse] at h
  · split at h
    · split at h
      · simp at h
      · rename_i n rest' hx
        have hl := hex4_length hx
        split at h
        · simp [refusePassed] at h
        · split at h
          · have := secondHalf_length h
            simp only [List.length_cons]
            omega
          · injection h with h
            injection h with _ h
            subst h
            simp only [List.length_cons]
            omega
    · split at h
      · injection h with h
        injection h with _ h
        subst h
        simp
      · simp [refuse] at h

/-- Puts a character in front of a string that was read. -/
def cons (c : Char) (r : Scan (List Char)) : Scan (List Char) :=
  r.map fun (cs, rest) => (c :: cs, rest)

/-- Reads a string after its opening quote. -/
def stringRest (s : List Char) : Scan (List Char) :=
  match s with
  | [] => refuse .endInString []
  | c :: s =>
    if c = '"' then .ok ([], s)
    else if c = '\\' then
      match _h : escape s with
      | .error f => .error f
      | .ok (e, rest) => cons e (stringRest rest)
    else if c < ' ' then refuse .controlCharacter (c :: s)
    else cons c (stringRest s)
termination_by s.length
decreasing_by
  · have := escape_length _h
    simp only [List.length_cons]
    omega
  · simp

/-- Reads a string after its opening quote. -/
def string (s : List Char) : Scan String :=
  (stringRest s).map fun (cs, rest) => (String.ofList cs, rest)

/-! ## Passing over -/

/-- Passes over an escape after its backslash. Four hexadecimal digits are enough, paired or
not. -/
def passEscape : List Char → Except Fault (List Char)
  | [] => refuse .endInString []
  | c :: s =>
    if c = 'u' then (hex4 s).map (·.2)
    else if (shortEscape? c).isSome then .ok s
    else refuse .badEscape (c :: s)

/-- Passing over an escape leaves less. -/
theorem passEscape_length {s rest : List Char} (h : passEscape s = .ok rest) :
    rest.length < s.length := by
  unfold passEscape at h
  split at h
  · simp [refuse] at h
  · rename_i c s
    split at h
    · cases hx : hex4 s with
      | error f => rw [hx] at h; simp [Except.map] at h
      | ok r =>
        obtain ⟨n, rest'⟩ := r
        rw [hx] at h
        simp only [Except.map, Except.ok.injEq] at h
        subst h
        have := hex4_length hx
        simp only [List.length_cons]
        omega
    · split at h
      · injection h with h
        subst h
        simp
      · simp [refuse] at h

/-- Passes over a string after its opening quote. -/
def passString (s : List Char) : Except Fault (List Char) :=
  match s with
  | [] => refuse .endInString []
  | c :: s =>
    if c = '"' then .ok s
    else if c = '\\' then
      match _h : passEscape s with
      | .error f => .error f
      | .ok rest => passString rest
    else if c < ' ' then refusePassed .controlCharacter (c :: s)
    else passString s
termination_by s.length
decreasing_by
  · have := passEscape_length _h
    simp only [List.length_cons]
    omega
  · simp

/-- Passes over a number after its sign. -/
def passNumber (s : List Char) : Except Fault (List Char) :=
  (numeral .badNumber false s).map (·.2)

end Scan

end CompileSession.Json
