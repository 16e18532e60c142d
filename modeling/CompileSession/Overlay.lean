import CompileSession.Diagnostic
import CompileSession.Log
import CompileSession.Pane

/-!
# Drawing diagnostics

An overlay draws a list of diagnostics on a pane. Each diagnostic with a place gets an annotation
and an underline, and an underline for every place in its context; one without a place becomes a
message of the log. The overlay keeps the numbers of the markers it added, so a new drawing removes
exactly those of the last one and never a marker of somebody else.
-/

namespace CompileSession

/-- The numbers of the markers drawn last, in the order they were added. -/
structure Overlay where
  tracked : List MarkerId
deriving DecidableEq, Repr

/-- How much one drawing produced. -/
structure Drawn where
  annotations : Nat
  markers : Nat
  messages : Nat
deriving DecidableEq, Repr

namespace Overlay

/-- An overlay that drew nothing yet. -/
def empty : Overlay := ⟨[]⟩

/-- A piece of the text to be underlined. -/
structure Underline where
  range : Range
  kind : MarkerClass
  severity : Severity
deriving DecidableEq, Repr

/-- The underline of a span: a context entry informs, an error is an error. -/
def underline (kind : MarkerClass) (s : Span) : Underline :=
  let severity := match kind with
    | .errorMessage => .error
    | .contextMessage => .info
  ⟨⟨⟨s.row, s.start⟩, ⟨s.row, s.stop⟩⟩, kind, severity⟩

/-- The annotation of a diagnostic with a place. -/
def annotation? (d : Diagnostic) : Option Annotation :=
  d.span.map fun s => ⟨⟨s.row, s.start⟩, d.detailText, .error⟩

/-- The underlines of a diagnostic: its own and those of its context, none if it has no place. -/
def underlines (d : Diagnostic) : List Underline :=
  match d.span with
  | none => []
  | some s =>
    underline .errorMessage s :: d.context.filterMap fun c => c.span.map (underline .contextMessage)

/-- The message of a diagnostic without a place. -/
def message? (d : Diagnostic) : Option Message :=
  if d.positioned then none else some ⟨.error, d.detailText⟩

/-- Adds the underlines to a pane, and their numbers to those tracked. -/
def addUnderlines (us : List Underline) (p : Pane) (tracked : List MarkerId) :
    Pane × List MarkerId :=
  us.foldl
    (fun (p, tracked) u => (p.addMarker u.range u.kind u.severity, tracked ++ [p.nextMarker]))
    (p, tracked)

/-- The pane without annotations and without the markers of the overlay. -/
def clear (o : Overlay) (p : Pane) : Pane := p.clearAnnotations.removeMarkers o.tracked

/-- What a drawing leaves: the overlay that drew, the pane, the log, and how much was drawn. -/
structure Drawing where
  overlay : Overlay
  pane : Pane
  log : Log
  drawn : Drawn
deriving DecidableEq, Repr

/-- Draws the diagnostics in place of those drawn last. -/
def draw (o : Overlay) (p : Pane) (log : Log) (ds : List Diagnostic) : Drawing :=
  let annotations := ds.filterMap annotation?
  let messages := ds.filterMap message?
  let marked := addUnderlines (ds.flatMap underlines) (o.clear p) []
  let pane := if annotations.isEmpty then marked.1 else marked.1.setAnnotations annotations
  ⟨⟨marked.2⟩, pane, log ++ messages, ⟨annotations.length, marked.2.length, messages.length⟩⟩

end Overlay

end CompileSession
