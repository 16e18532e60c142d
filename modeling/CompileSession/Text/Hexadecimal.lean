/-!
# Hexadecimal digits

Digits are read whatever the size of their letters and written with small or capital letters.
-/

namespace CompileSession.Text

/-- The value of a hexadecimal digit. -/
def hexDigit? (c : Char) : Option Nat :=
  if '0' ≤ c ∧ c ≤ '9' then some (c.toNat - '0'.toNat)
  else if 'a' ≤ c ∧ c ≤ 'f' then some (c.toNat - 'a'.toNat + 10)
  else if 'A' ≤ c ∧ c ≤ 'F' then some (c.toNat - 'A'.toNat + 10)
  else none

/-- The digit of value `n` with a small letter, for `n` below 16. -/
def hexDigit (n : Nat) : Char := Nat.digitChar n

/-- The digit of value `n` with a capital letter, for `n` below 16. -/
def hexCapital (n : Nat) : Char := (Nat.digitChar n).toUpper

/-- A digit that was written is read back. -/
theorem hexDigit?_hexDigit {n : Nat} (h : n < 16) : hexDigit? (hexDigit n) = some n := by
  have all : ∀ m : Fin 16, hexDigit? (hexDigit m) = some m.val := by decide
  exact all ⟨n, h⟩

/-- A digit that was written with a capital letter is read back. -/
theorem hexDigit?_hexCapital {n : Nat} (h : n < 16) : hexDigit? (hexCapital n) = some n := by
  have all : ∀ m : Fin 16, hexDigit? (hexCapital m) = some m.val := by decide
  exact all ⟨n, h⟩

end CompileSession.Text
