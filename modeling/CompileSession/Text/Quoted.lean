import CompileSession.Text.Unseen

/-!
# Quoted text

A text between double quotes, as it is named in a message: a quote, a backslash and the common
control characters have short escapes, any other character that does not show is written by its
number, and all else stands for itself.
-/

namespace CompileSession.Text

/-- How `c` is written inside quotes. -/
def quotedChar (c : Char) : List Char :=
  if c = '"' then ['\\', '"']
  else if c = '\\' then ['\\', '\\']
  else if c = '\n' then ['\\', 'n']
  else if c = '\r' then ['\\', 'r']
  else if c = '\t' then ['\\', 't']
  else if c = '\x00' then ['\\', '0']
  else if isUnseen c then "\\u\x7b".toList ++ Nat.toDigits 16 c.toNat ++ ['}']
  else [c]

/-- `s` between double quotes. -/
def quoted (s : String) : String :=
  String.ofList ('"' :: s.toList.flatMap quotedChar ++ ['"'])

end CompileSession.Text
