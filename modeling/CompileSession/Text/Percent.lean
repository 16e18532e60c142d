import CompileSession.Text.Hexadecimal
import CompileSession.Text.Octets

/-!
# Percent signs

Characters that may not stand for themselves are written octet by octet, each octet of their UTF-8
form as a percent sign and two hexadecimal digits. Reading takes any percent sign that two such
digits follow for an octet, and everything else for itself.
-/

namespace CompileSession.Text.Percent

/-- An octet as a percent sign and two hexadecimal digits. -/
def encodeOctet (b : UInt8) : List Char :=
  ['%', hexCapital (b.toNat / 16), hexCapital (b.toNat % 16)]

/-- A character octet by octet. -/
def encodeChar (c : Char) : List Char := (String.utf8EncodeChar c).flatMap encodeOctet

/-- `cs` with the characters that may not stand for themselves written octet by octet. -/
def encode (mayStand : Char → Bool) (cs : List Char) : List Char :=
  cs.flatMap fun c => if mayStand c then [c] else encodeChar c

/-- The octets that `cs` stands for. -/
def decode : List Char → List UInt8
  | [] => []
  | '%' :: a :: b :: rest =>
    match hexDigit? a, hexDigit? b with
    | some x, some y => UInt8.ofNat (16 * x + y) :: decode rest
    | _, _ => 0x25 :: decode (a :: b :: rest)
  | c :: rest => String.utf8EncodeChar c ++ decode rest

end CompileSession.Text.Percent
