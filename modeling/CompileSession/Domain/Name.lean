import CompileSession.Domain.Direction
import CompileSession.Domain.Label

/-!
# Domain names

A domain name may be written in any script, and there is one form in ASCII for it. The characters
that stand for others are replaced, the text is composed, and each label is written in ASCII. A name
in which something is written to the left must leave no doubt where its labels stand.
-/

namespace CompileSession.Domain

/-- What `c` stands for in a name, if one may hold it. -/
def meaning? (c : Char) : Option (List Char) :=
  if isExcluded c then none else some ((replacement? c).getD [c])

/-- The labels of a name. -/
def labels? (name : List Char) : Option (List Label) := do
  let text := (← name.mapM meaning?).flatten
  (Text.pieces '.' (composed text)).mapM Label.ofText?

/-- The form of a name in ASCII. -/
def ascii? (name : List Char) : Option (List Char) := do
  let labels ← labels? name
  if labels.any (·.characters.any isTwoWay) ∧ !labels.all (isClear ·.characters) then none
  else return ['.'].intercalate (labels.map (·.written))

end CompileSession.Domain
