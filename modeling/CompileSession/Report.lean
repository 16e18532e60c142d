import CompileSession.Log
import CompileSession.Pane
import CompileSession.Text.Lines

/-!
# The terminal report

What a pane and a log show, as text. Every row on which a marker starts or an annotation stands
gets one block, in ascending order: the source line behind its number, a line of carets under it
for each marker, then the lines of each annotation. The messages follow, one after the other.

The carets of a marker stay within the source line whatever columns it names, but for the one caret
after its end that a marker gets which starts there.
-/

namespace CompileSession.Report

/-- Puts a row in its place among rows in strictly ascending order. -/
def insertRow (row : Nat) : List Nat → List Nat
  | [] => [row]
  | other :: rows =>
    if row < other then row :: other :: rows
    else if row = other then other :: rows
    else other :: insertRow row rows

/-- The rows on which a marker starts or an annotation stands, in strictly ascending order. -/
def rows (p : Pane) : List Nat :=
  (p.markers.map (·.range.start.row.toNat) ++ p.annotations.map (·.position.row.toNat)).foldr
    insertRow []

/-- The carets of one marker: blanks in front of them, how many they are, and their glyph. -/
structure Carets where
  blanks : Nat
  count : Nat
  glyph : Char
deriving DecidableEq, Repr

/-- The glyph of a class of markers. -/
def glyph : MarkerClass → Char
  | .errorMessage => '^'
  | .contextMessage => '-'

/-- The carets of a marker under a line of `width` characters. A marker that ends on another row
runs to the end of the line, and every marker has at least one caret. -/
def carets (width : Nat) (m : Marker) : Carets :=
  let start := min m.range.start.column.toNat width
  let stop :=
    if m.range.stop.row = m.range.start.row then min m.range.stop.column.toNat width else width
  ⟨start, max stop (start + 1) - start, glyph m.kind⟩

/-- Everything about one row. -/
structure Block where
  row : Nat
  source : String
  carets : List Carets
  notes : List (List String)
deriving DecidableEq, Repr

/-- The block of a row, over the lines of the text. A row past the text has an empty line. -/
def block (lines : List String) (p : Pane) (row : Nat) : Block :=
  let source := lines[row]?.getD ""
  { row := row
    source := source
    carets := (p.markers.filter (·.range.start.row.toNat = row)).map (carets source.length)
    notes := (p.annotations.filter (·.position.row.toNat = row)).map (Text.lines ·.text) }

/-- The blocks of a pane. -/
def blocks (p : Pane) : List Block := (rows p).map (block (Text.lines p.text) p)

/-- `s` with blanks in front up to `width` characters. -/
def padded (width : Nat) (s : String) : String :=
  String.ofList (List.replicate (width - s.length) ' ') ++ s

theorem toList_padded (width : Nat) (s : String) :
    (padded width s).toList = List.replicate (width - s.length) ' ' ++ s.toList := by
  rw [padded, String.toList_append, String.toList_ofList]

/-- The blanks fill up a text that is shorter than `width`, and no other. -/
theorem length_padded (width : Nat) (s : String) :
    (padded width s).length = max width s.length := by
  rw [← String.length_toList, toList_padded, List.length_append, List.length_replicate,
    String.length_toList]
  omega

/-- The text itself stands at the end, unchanged. -/
theorem suffix_padded (width : Nat) (s : String) : s.toList <:+ (padded width s).toList := by
  rw [toList_padded]
  exact List.suffix_append _ _

/-- The line of carets. -/
def Carets.line (c : Carets) : String :=
  "     | " ++ String.ofList (List.replicate c.blanks ' ' ++ List.replicate c.count c.glyph)

/-- The lines of a note, of which the first is labelled. -/
def noteLines : List String → List String
  | [] => []
  | line :: lines => ("     = error: " ++ line) :: lines.map ("              " ++ ·)

/-- The lines of a block. -/
def Block.lines (b : Block) : List String :=
  (padded 4 (toString (b.row + 1)) ++ " | " ++ b.source)
    :: b.carets.map Carets.line ++ b.notes.flatMap noteLines

/-- The line of a message. -/
def messageLine (m : Message) : String :=
  match m.tone with
  | .success => "[ok] " ++ m.text
  | .error => "[error] " ++ m.text

/-- The lines of a report. -/
def lines (p : Pane) (log : Log) : List String :=
  (blocks p).flatMap Block.lines ++ log.map messageLine

/-- The report on a pane and a log; every line ends with a line feed. -/
def render (p : Pane) (log : Log) : String := String.join ((lines p log).map (· ++ "\n"))

end CompileSession.Report
