/-!
# Source spans

A piece of one source line: the line counted from 1, the columns counted from 0, the end column
included. Both a row counted from 0 and the column after the last one must fit the 32 bits of a
column, so a span starts no earlier than line 1 and ends before the greatest column.
-/

namespace CompileSession

/-- A piece of one source line. -/
structure Span where
  line : UInt32
  start : UInt32
  last : UInt32
deriving DecidableEq, Repr

namespace Span

/-- The greatest column. -/
def maxColumn : UInt32 := 0xffffffff

/-- What the wire may name as a span: a line, a start no later than the end, and room for the
column after the end. -/
def Valid (line start last : UInt32) : Prop := 1 ≤ line ∧ start ≤ last ∧ last ≠ maxColumn

instance (line start last : UInt32) : Decidable (Valid line start last) := by
  unfold Valid
  infer_instance

/-- The span with the given bounds, if they are valid. -/
def of? (line start last : UInt32) : Option Span :=
  if Valid line start last then some ⟨line, start, last⟩ else none

/-- The row, counted from 0. -/
def row (s : Span) : UInt32 := s.line - 1

/-- The column after the last one. Past the greatest column it stays there. -/
def stop (s : Span) : UInt32 := if s.last = maxColumn then maxColumn else s.last + 1

theorem of?_eq_some_iff {line start last : UInt32} {s : Span} :
    of? line start last = some s ↔ Valid line start last ∧ s = ⟨line, start, last⟩ := by
  unfold of?
  split
  · rename_i h
    simp [h, eq_comm]
  · rename_i h
    simp [h]

end Span

end CompileSession
