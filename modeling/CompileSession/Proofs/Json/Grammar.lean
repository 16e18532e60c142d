import CompileSession.Json.Value
import CompileSession.Text.Hexadecimal
import Mathlib.Algebra.Group.Int.Defs

/-!
# The grammar of JSON texts

What the characters of a text spell, written down without a reader. A relation of the grammar says
what stands at the front of some characters and which characters are left. The value of a text holds
the members of an object as they are written, in the order of the text and with every repetition of
a name.

The grammar is the same for all texts, except for what a numeral stands for, which is a parameter:
`Numeral` takes every numeral and says nothing of its value, `Plain` takes the whole numbers of 64
bits in plain decimal form.
-/

namespace CompileSession.Json.Grammar

/-! ## Words -/

/-- White space, or none. -/
def Space (s rest : List Char) : Prop :=
  ∃ blanks, (∀ c ∈ blanks, c ∈ [' ', '\t', '\n', '\r']) ∧ s = blanks ++ rest

/-- One digit or more. -/
def IsDigits (ds : List Char) : Prop := ds ≠ [] ∧ ∀ c ∈ ds, c.isDigit

/-- The digits before the point, without leading zeros. -/
def IsWhole (ds : List Char) : Prop := ds = ['0'] ∨ ds.head? ≠ some '0' ∧ IsDigits ds

/-- A point and the digits after it, or nothing. -/
inductive Fraction : List Char → List Char → Prop where
  | none {s : List Char} : Fraction s s
  | some {ds rest : List Char} : IsDigits ds → Fraction ('.' :: (ds ++ rest)) rest

/-- An exponent, with a sign or without one, or nothing. -/
inductive Exponent : List Char → List Char → Prop where
  | none {s : List Char} : Exponent s s
  | some {c : Char} {sign ds rest : List Char} : c ∈ ['e', 'E'] → sign ∈ [[], ['+'], ['-']] →
      IsDigits ds → Exponent (c :: (sign ++ (ds ++ rest))) rest

/-- A numeral without its sign. -/
inductive Unsigned : List Char → List Char → Prop where
  | of {ds s t rest : List Char} : IsWhole ds → Fraction s t → Exponent t rest →
      Unsigned (ds ++ s) rest

/-- A numeral, whatever number it stands for. -/
inductive Numeral : List Char → Number → List Char → Prop where
  | bare {s rest : List Char} {n : Number} : Unsigned s rest → Numeral s n rest
  | minus {s rest : List Char} {n : Number} : Unsigned s rest → Numeral ('-' :: s) n rest

/-- Nothing but numerals are taken for numbers. -/
def OfNumerals (num : List Char → Number → List Char → Prop) : Prop :=
  ∀ {s n rest}, num s n rest → Numeral s n rest

/-- A whole number of 64 bits, with a sign or without one, in plain decimal form. -/
def Plain (s : List Char) (n : Number) (rest : List Char) : Prop :=
  ∃ i : Int, -2 ^ 63 ≤ i ∧ i < 2 ^ 64 ∧ n = .integer i ∧ s = (toString i).toList ++ rest

/-- A hexadecimal digit, with a small or a capital letter. -/
def Hex (c : Char) (n : Nat) : Prop := n < 16 ∧ (c = Text.hexDigit n ∨ c = Text.hexCapital n)

/-- Four hexadecimal digits. -/
inductive Hex4 : List Char → Nat → List Char → Prop where
  | of {a b c d : Char} {h i j k : Nat} {s : List Char} : Hex a h → Hex b i → Hex c j → Hex d k →
      Hex4 (a :: b :: c :: d :: s) (4096 * h + 256 * i + 16 * j + k) s

/-- The letters that stand for a character after a backslash, each with its character. -/
def shortEscapes : List (Char × Char) :=
  [('"', '"'), ('\\', '\\'), ('/', '/'), ('b', '\x08'), ('f', '\x0c'), ('n', '\n'), ('r', '\r'),
    ('t', '\t')]

/-- A character of a string: as it is, by a letter, by its code point, or by the two halves of its
surrogate pair. -/
inductive Glyph : List Char → Char → List Char → Prop where
  | raw {c : Char} {s : List Char} : ' ' ≤ c → c ≠ '"' → c ≠ '\\' → Glyph (c :: s) c s
  | short {e c : Char} {s : List Char} : (e, c) ∈ shortEscapes → Glyph ('\\' :: e :: s) c s
  | code {c : Char} {s rest : List Char} : Hex4 s c.toNat rest → Glyph ('\\' :: 'u' :: s) c rest
  | pair {c : Char} {s t rest : List Char} : 0x10000 ≤ c.toNat →
      Hex4 s (0xd800 + (c.toNat - 0x10000) / 0x400) ('\\' :: 'u' :: t) →
      Hex4 t (0xdc00 + (c.toNat - 0x10000) % 0x400) rest → Glyph ('\\' :: 'u' :: s) c rest

/-- The characters of a string and the quote that closes it. -/
inductive Glyphs : List Char → List Char → List Char → Prop where
  | close {s : List Char} : Glyphs ('"' :: s) [] s
  | more {c : Char} {s t cs rest : List Char} : Glyph s c t → Glyphs t cs rest →
      Glyphs s (c :: cs) rest

/-- The name of a member and the colon after it, with white space in front of each. -/
inductive Name : List Char → String → List Char → Prop where
  | of {cs s t u rest : List Char} : Space s ('"' :: t) → Glyphs t cs u → Space u (':' :: rest) →
      Name s (String.ofList cs) rest

/-! ## Values -/

section
variable (num : List Char → Number → List Char → Prop)

mutual

/-- A value. -/
inductive Value : List Char → Json → List Char → Prop where
  | null {s : List Char} : Value ('n' :: 'u' :: 'l' :: 'l' :: s) .null s
  | yes {s : List Char} : Value ('t' :: 'r' :: 'u' :: 'e' :: s) (.boolean true) s
  | no {s : List Char} : Value ('f' :: 'a' :: 'l' :: 's' :: 'e' :: s) (.boolean false) s
  | number {n : Number} {s rest : List Char} : num s n rest → Value s (.number n) rest
  | text {cs s rest : List Char} : Glyphs s cs rest →
      Value ('"' :: s) (.text (String.ofList cs)) rest
  | noItems {s rest : List Char} : Space s (']' :: rest) → Value ('[' :: s) (.array []) rest
  | array {items : List Json} {s rest : List Char} : Items s items (']' :: rest) →
      Value ('[' :: s) (.array items) rest
  | noMembers {s rest : List Char} : Space s ('}' :: rest) → Value ('{' :: s) (.object []) rest
  | object {ms : Json.Members} {s rest : List Char} : Members s ms ('}' :: rest) →
      Value ('{' :: s) (.object ms) rest

/-- One value or more, with white space around each and commas in between. -/
inductive Items : List Char → List Json → List Char → Prop where
  | one {v : Json} {s t u rest : List Char} : Space s t → Value t v u → Space u rest →
      Items s [v] rest
  | more {v : Json} {items : List Json} {s t u w rest : List Char} : Space s t → Value t v u →
      Space u (',' :: w) → Items w items rest → Items s (v :: items) rest

/-- One member or more, with white space around each word and commas in between. -/
inductive Members : List Char → Json.Members → List Char → Prop where
  | one {name : String} {v : Json} {s t u w rest : List Char} : Name s name t → Space t u →
      Value u v w → Space w rest → Members s [(name, v)] rest
  | more {name : String} {v : Json} {ms : Json.Members} {s t u w x rest : List Char} :
      Name s name t → Space t u → Value u v w → Space w (',' :: x) → Members x ms rest →
      Members s ((name, v) :: ms) rest

end

/-- A value with white space around it, and nothing else. -/
def Document (cs : List Char) (v : Json) : Prop :=
  ∃ s rest, Space cs s ∧ Value num s v rest ∧ Space rest []

end

end CompileSession.Json.Grammar
