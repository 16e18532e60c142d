/-!
# The editing pane

What an editor shows of one document: its text, a list of annotations, and markers that underline
pieces of it. The annotations are replaced as a whole; a marker is added and removed by itself,
under a number that no other marker of the pane ever had. The markers are held in ascending order
of their numbers.
-/

namespace CompileSession

/-- How serious an annotation or marker is. -/
inductive Severity where
  | error
  | info
deriving DecidableEq, Repr

/-- What a marker underlines: the place of an error, or one that explains it. -/
inductive MarkerClass where
  | errorMessage
  | contextMessage
deriving DecidableEq, Repr

/-- The name of a class. -/
def MarkerClass.name : MarkerClass → String
  | .errorMessage => "error-message"
  | .contextMessage => "context-message"

/-- A place in the text, row and column counted from 0. -/
structure Position where
  row : UInt32
  column : UInt32
deriving DecidableEq, Repr

/-- The text from one place up to, not including, another. -/
structure Range where
  start : Position
  stop : Position
deriving DecidableEq, Repr

/-- A note at one place. -/
structure Annotation where
  position : Position
  text : String
  severity : Severity
deriving DecidableEq, Repr

/-- The number of a marker. -/
abbrev MarkerId := Nat

/-- An underlined piece of the text. -/
structure Marker where
  id : MarkerId
  range : Range
  kind : MarkerClass
  severity : Severity
deriving DecidableEq, Repr

/-- What an editor shows of one document. -/
structure Pane where
  text : String
  annotations : List Annotation
  markers : List Marker
  nextMarker : MarkerId
deriving DecidableEq, Repr

namespace Pane

/-- A pane that shows `text` and nothing else. -/
def ofText (text : String) : Pane := ⟨text, [], [], 0⟩

/-- Replaces the text; annotations and markers stay where they are. -/
def setText (text : String) (p : Pane) : Pane := { p with text := text }

/-- Replaces the annotations. -/
def setAnnotations (annotations : List Annotation) (p : Pane) : Pane :=
  { p with annotations := annotations }

/-- Removes every annotation. -/
def clearAnnotations (p : Pane) : Pane := p.setAnnotations []

/-- Adds a marker under the next number. -/
def addMarker (range : Range) (kind : MarkerClass) (severity : Severity) (p : Pane) : Pane :=
  { p with
    markers := p.markers ++ [⟨p.nextMarker, range, kind, severity⟩]
    nextMarker := p.nextMarker + 1 }

/-- Removes the marker with the given number, if there is one. -/
def removeMarker (id : MarkerId) (p : Pane) : Pane :=
  { p with markers := p.markers.filter (·.id != id) }

/-- Removes the markers with the given numbers. -/
def removeMarkers (ids : List MarkerId) (p : Pane) : Pane :=
  ids.foldl (fun p id => p.removeMarker id) p

/-- Removing markers keeps those with other numbers, and everything else. -/
theorem removeMarkers_eq (ids : List MarkerId) (p : Pane) :
    p.removeMarkers ids = { p with markers := p.markers.filter fun m => !ids.contains m.id } := by
  induction ids generalizing p with
  | nil =>
    have : (p.markers.filter fun m => !([] : List MarkerId).contains m.id) = p.markers :=
      List.filter_eq_self.2 fun _ _ => rfl
    rw [this]
    rfl
  | cons id ids ih =>
    rw [removeMarkers, List.foldl_cons, ← removeMarkers, ih]
    simp only [removeMarker, List.filter_filter]
    congr 1
    apply List.filter_congr
    intro m _
    simp only [List.contains_cons, Bool.not_or, bne]
    exact Bool.and_comm _ _

end Pane

end CompileSession
