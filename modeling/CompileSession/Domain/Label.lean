import CompileSession.Domain.Composition
import CompileSession.Domain.Excluded
import CompileSession.Domain.Joining
import CompileSession.Domain.Punycode
import CompileSession.Domain.Replacement

/-!
# Labels of domain names

A label is what stands between two full stops of a name. It is a text of its own, or the ASCII form
of one, which must then be the form of a text that could stand there itself: in composed form and
without characters that stand for others. No label begins with a mark or holds joiners where they
change nothing.
-/

namespace CompileSession.Domain

/-- A label: the characters it is made of, and how it is written in ASCII. -/
structure Label where
  characters : List Char
  written : List Char
deriving DecidableEq, Repr

namespace Label

/-- Whether `c` stands in a label for itself. -/
def isKept (c : Char) : Bool := !isExcluded c && (replacement? c).isNone

/-- The greatest number of characters in a label beyond ASCII. -/
def characterLimit : Nat := 1000

/-- The greatest number of characters behind the `xn--` of a label. -/
def codeLimit : Nat := 2000

/-- Whether the characters of a label may stand in this order. -/
def isProper (cs : List Char) : Bool :=
  !cs.head?.any isMark && joinersFit [] cs
    && (cs.all Punycode.isBasic || cs.length ≤ characterLimit)

/-- The label that is written `text`, which begins with `xn--`. -/
def ofCode? (text : List Char) : Option Label :=
  let code := text.drop Punycode.sign.length
  if text.getLast? = some '-' ∨ codeLimit < code.length ∨ !text.all Punycode.isBasic then none
  else
    match Punycode.decode? code with
    | none => none
    | some cs =>
      if cs.all isKept ∧ composed cs = cs ∧ isProper cs then some ⟨cs, text⟩ else none

/-- The label of a text whose characters stand for themselves and are in composed form. -/
def ofText? (text : List Char) : Option Label :=
  if text.take Punycode.sign.length = Punycode.sign then ofCode? text
  else if isProper text then some ⟨text, Punycode.encode text⟩
  else none

end Label

end CompileSession.Domain
