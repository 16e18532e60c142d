/-!
# Text as octets

The UTF-8 form of a text, and reading octets back. An ill-formed part of the octets is cut as
long as it begins some well-formed character, so that a character broken off counts once and an
octet that begins none counts alone. `decode?` refuses octets with such a part, and `decodeLossy`
puts the replacement character in its place.
-/

namespace CompileSession.Text

/-- The UTF-8 form of `cs`. -/
def encode (cs : List Char) : List UInt8 := cs.flatMap String.utf8EncodeChar

/-- The number of octets that `cs` takes in UTF-8. -/
def octetCount (cs : List Char) : Nat := (encode cs).length

/-- What the first octet of a longer character tells: how many octets follow, the bits it brings,
and the least and the greatest octet that may come second. -/
structure Lead where
  following : Nat
  bits : Nat
  low : UInt8
  high : UInt8

/-- The lead that `b` is, if it begins a character of two to four octets. The bounds on the second
octet leave out overlong forms, surrogates and what lies past the last character. -/
def lead? (b : UInt8) : Option Lead :=
  if 0xc2 ≤ b ∧ b ≤ 0xdf then some ⟨1, b.toNat - 0xc0, 0x80, 0xbf⟩
  else if b = 0xe0 then some ⟨2, 0, 0xa0, 0xbf⟩
  else if b = 0xed then some ⟨2, 0xd, 0x80, 0x9f⟩
  else if 0xe1 ≤ b ∧ b ≤ 0xef then some ⟨2, b.toNat - 0xe0, 0x80, 0xbf⟩
  else if b = 0xf0 then some ⟨3, 0, 0x90, 0xbf⟩
  else if 0xf1 ≤ b ∧ b ≤ 0xf3 then some ⟨3, b.toNat - 0xf0, 0x80, 0xbf⟩
  else if b = 0xf4 then some ⟨3, 4, 0x80, 0x8f⟩
  else none

/-- Where reading stands: between characters, or with `missing` octets of a character still to
come, whose bits so far are `bits` and whose next octet lies between `low` and `high`. -/
inductive Reading where
  | between
  | inside (missing : Nat) (bits : Nat) (low high : UInt8)

/-- Reads `b` as the first octet of a character: what it completes, and where reading stands. -/
def begin (b : UInt8) : List (Option Char) × Reading :=
  if b < 0x80 then ([some (Char.ofNat b.toNat)], .between)
  else match lead? b with
    | some l => ([], .inside l.following l.bits l.low l.high)
    | none => ([none], .between)

/-- Reads one octet. An octet that cannot continue the character read so far ends that part as
ill-formed and is read again as a first octet. -/
def Reading.step (b : UInt8) : Reading → List (Option Char) × Reading
  | .between => begin b
  | .inside missing bits low high =>
    if low ≤ b ∧ b ≤ high then
      let bits := 64 * bits + (b.toNat - 0x80)
      if missing ≤ 1 then ([some (Char.ofNat bits)], .between)
      else ([], .inside (missing - 1) bits 0x80 0xbf)
    else (none :: (begin b).1, (begin b).2)

/-- The characters of `octets`, with `none` for each ill-formed part, read on from `state`. -/
def scalarsFrom : Reading → List UInt8 → List (Option Char)
  | .between, [] => []
  | .inside .., [] => [none]
  | state, b :: rest => (state.step b).1 ++ scalarsFrom (state.step b).2 rest

/-- The characters of `octets`, with `none` for each ill-formed part. -/
def scalars (octets : List UInt8) : List (Option Char) := scalarsFrom .between octets

/-- The text that `octets` spell, if they are well-formed throughout. -/
def decode? (octets : List UInt8) : Option String :=
  ((scalars octets).mapM id).map String.ofList

/-- The text that `octets` spell, with U+FFFD for each ill-formed part. -/
def decodeLossy (octets : List UInt8) : String :=
  String.ofList ((scalars octets).map (·.getD '\ufffd'))

end CompileSession.Text
