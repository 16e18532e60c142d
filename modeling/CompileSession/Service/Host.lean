import CompileSession.Domain.Name
import CompileSession.Text.Decimal
import CompileSession.Text.Percent
import CompileSession.Text.Pieces

/-!
# Hosts of addresses

A host is a domain name, an address of four octets or an address of eight pieces of 16 bits. A
name whose last label is a number must be an address of the first kind, whose parts may be decimal,
octal or hexadecimal and may be fewer than four; one between brackets is of the second kind. Hosts
are written in one form: names in small letters, addresses with four decimal parts or with the
longest run of zero pieces left out.
-/

namespace CompileSession

/-- A host. -/
inductive Host where
  | domain (name : String)
  | octets (value : Nat)
  | pieces (values : List Nat)
deriving DecidableEq, Repr

namespace Host

/-! ## Numbers -/

/-- The value of digits in a base, read on from `acc`. -/
def numeralFrom (base acc : Nat) : List Char → Option Nat
  | [] => some acc
  | c :: rest =>
    match Text.hexDigit? c with
    | some d => if d < base then numeralFrom base (base * acc + d) rest else none
    | none => none

/-- The value of a part of an address: hexadecimal after `0x`, octal after `0`, else decimal. -/
def part? : List Char → Option Nat
  | [] => none
  | '0' :: 'x' :: ds => numeralFrom 16 0 ds
  | '0' :: 'X' :: ds => numeralFrom 16 0 ds
  | '0' :: ds => numeralFrom 8 0 ds
  | ds => numeralFrom 10 0 ds

/-! ## Addresses of four octets -/

/-- The labels of a name; an empty one at the end does not count. -/
def labels (cs : List Char) : List (List Char) :=
  let ls := Text.pieces '.' cs
  if 1 < ls.length ∧ ls.getLast? = some [] then ls.dropLast else ls

/-- Whether a label is a number: all digits, or hexadecimal digits after `0x`. -/
def isNumeric (label : List Char) : Bool :=
  (!label.isEmpty && label.all Text.isDigit)
    || ((label.take 2 == ['0', 'x'] || label.take 2 == ['0', 'X']) && (part? label).isSome)

/-- Whether a name must be an address: its last label is a number. -/
def endsInNumber (cs : List Char) : Bool := (labels cs).getLast?.any isNumeric

/-- The address with the given parts, of which the last fills all octets left. -/
def ofParts : List Nat → Nat → Nat → Option Nat
  | [], _, _ => none
  | [last], acc, left =>
    if last < Nat.pow 256 left then some (acc * Nat.pow 256 left + last) else none
  | p :: rest, acc, left =>
    if p < 256 ∧ 1 < left then ofParts rest (acc * 256 + p) (left - 1) else none

/-- The address that a name spells. -/
def octets? (cs : List Char) : Option Nat := do
  let parts ← (labels cs).mapM part?
  ofParts parts 0 4

/-- Four decimal parts. -/
def renderOctets (value : Nat) : String :=
  String.intercalate "." ([3, 2, 1, 0].map fun i => toString (value / Nat.pow 256 i % 256))

/-! ## Addresses of eight pieces -/

/-- The value of one piece: one to four hexadecimal digits. -/
def piece? (cs : List Char) : Option Nat :=
  if cs.isEmpty ∨ 4 < cs.length then none else numeralFrom 16 0 cs

/-- The two pieces that four decimal parts at the end of an address make. -/
def tail? (cs : List Char) : Option (List Nat) := do
  let parts ← (Text.pieces '.' cs).mapM fun p =>
    if p.isEmpty ∨ (1 < p.length ∧ p.head? = some '0') then none
    else (numeralFrom 10 0 p).filter (· < 256)
  match parts with
  | [a, b, c, d] => some [256 * a + b, 256 * c + d]
  | _ => none

/-- The pieces of a colon-separated list, of which the last may be four decimal parts. -/
def pieceList? : List (List Char) → Option (List Nat)
  | [] => some []
  | [last] => if last.contains '.' then tail? last else (piece? last).map ([·])
  | p :: rest => do
    let x ← piece? p
    let xs ← pieceList? rest
    return x :: xs

/-- `cs` cut at the first `::`, if there is one. -/
def cut (seen : List Char) : List Char → Option (List Char × List Char)
  | ':' :: ':' :: rest => some (seen.reverse, rest)
  | c :: rest => cut (c :: seen) rest
  | [] => none

/-- The pieces on one side of a `::`. -/
def side? (cs : List Char) : Option (List Nat) :=
  if cs.isEmpty then some [] else pieceList? (Text.pieces ':' cs)

/-- The eight pieces that the text between brackets spells. -/
def pieces? (cs : List Char) : Option (List Nat) :=
  match cut [] cs with
  | some (before, after) => do
    if before.contains '.' then none
    let front ← side? before
    let back ← side? after
    if front.length + back.length < 8 then
      some (front ++ List.replicate (8 - front.length - back.length) 0 ++ back)
    else none
  | none => (pieceList? (Text.pieces ':' cs)).filter (·.length = 8)

/-- The length of the run of zeros in front. -/
def zeros (ps : List Nat) : Nat := (ps.takeWhile (· == 0)).length

/-- The start and length of the first longest run of zeros, among those of more than one. -/
def longestZeros (ps : List Nat) : Option (Nat × Nat) :=
  (List.range ps.length).foldl
    (fun best i =>
      let n := zeros (ps.drop i)
      if 1 < n ∧ (best.map (·.2)).getD 1 < n then some (i, n) else best)
    none

/-- A piece in hexadecimal digits. -/
def renderPiece (n : Nat) : String := String.ofList (Nat.toDigits 16 n)

/-- Eight pieces, with the longest run of zeros left out. -/
def renderPieces (ps : List Nat) : String :=
  let join (xs : List Nat) : String := String.intercalate ":" (xs.map renderPiece)
  match longestZeros ps with
  | some (i, n) => "[" ++ join (ps.take i) ++ "::" ++ join (ps.drop (i + n)) ++ "]"
  | none => "[" ++ join ps ++ "]"

/-! ## Hosts -/

/-- The text of a host. -/
def render : Host → String
  | .domain name => name
  | .octets value => renderOctets value
  | .pieces values => renderPieces values

/-- Whether `c` may not stand in a domain name. -/
def isForbidden (c : Char) : Bool :=
  c ≤ ' ' || c == '\x7f' || "#/:<>?@[\\]^|%".toList.contains c

/-- The host that `cs` spells in an address of the web. A name that is not well-formed UTF-8 once
its percent signs are read spells none. -/
def ofWeb? (cs : List Char) : Option Host :=
  match cs with
  | '[' :: rest =>
    if rest.getLast? = some ']' then (pieces? rest.dropLast).map .pieces else none
  | cs => do
    let decoded ← Text.decode? (Text.Percent.decode cs)
    let name ← Domain.ascii? decoded.toList
    if name.isEmpty ∨ name.any isForbidden then none
    else if endsInNumber name then (octets? name).map .octets
    else some (.domain (String.ofList name))

/-- Whether `c` may not stand in the name of a host outside the web. -/
def isReserved (c : Char) : Bool := "\x00\t\n\r #/:<>?@[\\]^|".toList.contains c

/-- Whether `c` shows and belongs to ASCII. -/
def isVisible (c : Char) : Bool := ' ' ≤ c && c ≤ '~'

/-- The host that `cs` spells in any other address: its characters are kept as they are. -/
def ofOther? (cs : List Char) : Option Host :=
  match cs with
  | '[' :: rest =>
    if rest.getLast? = some ']' then (pieces? rest.dropLast).map .pieces else none
  | cs =>
    if cs.any isReserved then none
    else some (.domain (String.ofList (Text.Percent.encode isVisible cs)))

end Host

end CompileSession
