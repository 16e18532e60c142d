import CompileSession.Span

/-!
# Diagnostics

What the compiler has to say about a source: a text, perhaps a place, a counterexample and a file
name, and further diagnostics that explain it. The service writes a line break inside a text as a
backslash and an `n`; `unescape` turns these two characters into a line feed, from left to right,
and leaves every other backslash alone.
-/

namespace CompileSession

/-- `cs` with every backslash followed by an `n` replaced by a line feed. -/
def unescape : List Char → List Char
  | [] => []
  | '\\' :: 'n' :: rest => '\n' :: unescape rest
  | c :: rest => c :: unescape rest

/-- One diagnostic of the compiler and those that explain it. -/
structure Diagnostic where
  text : String
  span : Option Span
  counterexample : Option String
  filename : Option String
  context : List Diagnostic
deriving Repr, Inhabited

namespace Diagnostic

/-- Whether the diagnostic has a place in the source. -/
def positioned (d : Diagnostic) : Bool := d.span.isSome

/-- The text with its line breaks. -/
def displayText (d : Diagnostic) : String := String.ofList (unescape d.text.toList)

/-- The text with its line breaks and, after an empty line, the counterexample as it came. -/
def detailText (d : Diagnostic) : String :=
  match d.counterexample with
  | none => d.displayText
  | some c => d.displayText ++ "\n\ncounterexample: " ++ c

end Diagnostic

end CompileSession
