import CompileSession.Overlay
import CompileSession.Proofs.Session.History

/-!
# The numbers of markers

A pane numbers its markers upwards and gives no number twice, so every marker on it has a number
below the next one (`Pane.Numbered`). This is what makes the numbers that an overlay keeps its own:
those of a drawing are new (`Overlay.addUnderlines_eq`), and taking them away takes away nothing
else (`Overlay.clear_eq`).
-/

namespace CompileSession

namespace Pane

/-- Every marker has a number below the next one. -/
def Numbered (p : Pane) : Prop := ∀ m ∈ p.markers, m.id < p.nextMarker

theorem numbered_ofText (text : String) : (ofText text).Numbered :=
  fun _ h => absurd h List.not_mem_nil

theorem Numbered.addMarker {p : Pane} (h : p.Numbered) (range : Range) (kind : MarkerClass)
    (severity : Severity) : (p.addMarker range kind severity).Numbered := by
  intro m hm
  rcases List.mem_append.1 hm with hm | hm
  · exact Nat.lt_succ_of_lt (h m hm)
  · rw [List.mem_singleton] at hm
    subst hm
    exact Nat.lt_succ_self _

theorem Numbered.removeMarker {p : Pane} (h : p.Numbered) (id : MarkerId) :
    (p.removeMarker id).Numbered :=
  fun m hm => h m (List.mem_filter.1 hm).1

theorem Numbered.apply {p : Pane} (h : p.Numbered) (change : PaneChange) :
    (change.apply p).Numbered := by
  cases change with
  | addMarker range kind severity => exact h.addMarker range kind severity
  | removeMarker id => exact h.removeMarker id
  | setText | setAnnotations | clearAnnotations => exact h

/-- Whatever its owner does to a pane, it stays numbered. -/
theorem numbered_changed (text : String) (changes : List PaneChange) :
    (changes.foldl (fun p change => change.apply p) (ofText text)).Numbered := by
  induction changes using List.reverseRecOn with
  | nil => exact numbered_ofText text
  | append_singleton past change ih =>
    rw [List.foldl_append]
    exact ih.apply change

end Pane

namespace Overlay

/-- The markers that underlines become, numbered from `next` on. -/
def numberFrom (next : MarkerId) : List Underline → List Marker
  | [] => []
  | u :: us => ⟨next, u.range, u.kind, u.severity⟩ :: numberFrom (next + 1) us

/-- The underline that a marker is. -/
def underlineOf (m : Marker) : Underline := ⟨m.range, m.kind, m.severity⟩

theorem map_underlineOf_numberFrom (next : MarkerId) (us : List Underline) :
    (numberFrom next us).map underlineOf = us := by
  induction us generalizing next with
  | nil => rfl
  | cons u us ih =>
    rw [numberFrom, List.map_cons, ih]
    rfl

theorem le_id_of_mem_numberFrom {next : MarkerId} {us : List Underline} {m : Marker}
    (h : m ∈ numberFrom next us) : next ≤ m.id ∧ m.id < next + us.length := by
  induction us generalizing next with
  | nil => exact absurd h List.not_mem_nil
  | cons u us ih =>
    rw [List.length_cons]
    rcases List.mem_cons.1 h with rfl | h
    · exact ⟨Nat.le_refl _, Nat.lt_add_of_pos_right (Nat.succ_pos _)⟩
    · obtain ⟨hle, hlt⟩ := ih h
      refine ⟨Nat.le_of_succ_le hle, ?_⟩
      rw [Nat.add_assoc, Nat.add_comm 1] at hlt
      exact hlt

/-- The underlines are added behind the markers that are there, under the next numbers, and these
are the numbers tracked. -/
theorem addUnderlines_eq (us : List Underline) (p : Pane) (tracked : List MarkerId) :
    addUnderlines us p tracked =
      ({ p with
          markers := p.markers ++ numberFrom p.nextMarker us
          nextMarker := p.nextMarker + us.length },
        tracked ++ (numberFrom p.nextMarker us).map (·.id)) := by
  induction us generalizing p tracked with
  | nil => simp [addUnderlines, numberFrom]
  | cons u us ih =>
    rw [addUnderlines, List.foldl_cons, ← addUnderlines, ih]
    simp only [Pane.addMarker, numberFrom, List.append_assoc, List.singleton_append,
      List.map_cons, List.length_cons, Prod.mk.injEq, and_true]
    rw [Nat.add_assoc, Nat.add_comm 1]

/-- Clearing removes the annotations and the markers tracked. -/
theorem clear_eq (o : Overlay) (p : Pane) :
    o.clear p =
      { p with
        annotations := []
        markers := p.markers.filter fun m => !o.tracked.contains m.id } :=
  Pane.removeMarkers_eq o.tracked p.clearAnnotations

/-- The markers that diagnostics are drawn with, numbered from `next` on. -/
def markersOf (next : MarkerId) (ds : List Diagnostic) : List Marker :=
  numberFrom next (ds.flatMap underlines)

/-- What a drawing leaves on the pane: no annotation and no marker but its own takes the place of
those drawn before. -/
theorem draw_pane (o : Overlay) (p : Pane) (log : Log) (ds : List Diagnostic) :
    (o.draw p log ds).pane =
      { p with
        annotations := ds.filterMap annotation?
        markers := (p.markers.filter fun m => !o.tracked.contains m.id) ++ markersOf p.nextMarker ds
        nextMarker := p.nextMarker + (ds.flatMap underlines).length } := by
  unfold draw markersOf
  simp only [addUnderlines_eq, clear_eq]
  cases hnotes : ds.filterMap annotation? with
  | nil => rfl
  | cons first rest => rfl

/-- The overlay that drew tracks the markers of the drawing. -/
theorem draw_tracked (o : Overlay) (p : Pane) (log : Log) (ds : List Diagnostic) :
    (o.draw p log ds).overlay.tracked = (markersOf p.nextMarker ds).map (·.id) := by
  unfold draw markersOf
  simp only [addUnderlines_eq, clear_eq, List.nil_append]

theorem draw_log (o : Overlay) (p : Pane) (log : Log) (ds : List Diagnostic) :
    (o.draw p log ds).log = log ++ ds.filterMap message? := rfl

end Overlay

end CompileSession
