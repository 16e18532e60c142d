import CompileSession.Proofs.Session.View
import CompileSession.Proofs.SharedPane

/-!
# What a drawing leaves

A drawing is told by the diagnostics alone: what the overlay drew before is gone, what others put
on the pane is left as it is, and what is drawn is one annotation for each diagnostic with a place,
its underline and those of the places in its context, and one message for each diagnostic without.
The markers of the drawing have new numbers, one after the other, which is how they are told from
those of others: `Overlay.own` are the markers that an overlay tracks on a pane and `Overlay.others`
the rest.

Results:
1. `Overlay.flatMap_underlines`: the underlines of diagnostics.
2. `Overlay.own_draw` and `Overlay.others_draw`: whose markers are on the pane.
3. `Overlay.draw_pictures`: all that a drawing leaves; `Board.draw_on_any_pane`: on every pane that
   overlays and an owner worked on, and when it is repeated.
-/

namespace CompileSession

namespace Span

/-- The row is counted from 0. -/
theorem Valid.toNat_row {s : Span} (h : Valid s.line s.start s.last) :
    s.row.toNat + 1 = s.line.toNat := by
  have hline : (1 : UInt32) ≤ s.line := h.1
  rw [row, UInt32.toNat_sub_of_le _ _ hline]
  exact Nat.sub_add_cancel (UInt32.le_iff_toNat_le.1 hline)

/-- There is a column after the last one. -/
theorem Valid.toNat_stop {s : Span} (h : Valid s.line s.start s.last) :
    s.stop.toNat = s.last.toNat + 1 := by
  have hmax : s.last.toNat ≠ maxColumn.toNat := fun heq => h.2.2 (UInt32.toNat_inj.1 heq)
  have hlast : s.last.toNat ≠ 2 ^ 32 - 1 := hmax
  have hlt := s.last.toNat_lt
  rw [stop, if_neg h.2.2, UInt32.toNat_add]
  exact Nat.mod_eq_of_lt (by show s.last.toNat + 1 < 2 ^ 32; omega)

end Span

namespace Diagnostic

/-- The diagnostics that have a place, each with it. -/
def placed (ds : List Diagnostic) : List (Diagnostic × Span) :=
  ds.filterMap fun d => d.span.map fun s => (d, s)

variable {α : Type}

theorem map_placed (f : Diagnostic × Span → α) (ds : List Diagnostic) :
    (placed ds).map f = ds.filterMap fun d => d.span.map fun s => f (d, s) := by
  rw [placed, List.map_filterMap]
  congr 1
  funext d
  exact Option.map_map _ _ _

theorem flatMap_placed (f : Diagnostic × Span → List α) (ds : List Diagnostic) :
    (placed ds).flatMap f = ds.flatMap fun d => (d.span.map fun s => f (d, s)).getD [] := by
  induction ds with
  | nil => rfl
  | cons d ds ih =>
    rw [List.flatMap_cons, ← ih, placed, List.filterMap_cons]
    cases d.span with
    | none => rfl
    | some s => rfl

end Diagnostic

open Diagnostic (placed)
open History (rangeOf)

namespace Overlay

/-- The underlines of diagnostics: for each with a place its own as an error, then those of the
places in its context as information. -/
def lines (ds : List Diagnostic) : List Underline :=
  (placed ds).flatMap fun (d, s) =>
    ⟨rangeOf s, .errorMessage, .error⟩ ::
      (placed d.context).map fun (_, c) => ⟨rangeOf c, .contextMessage, .info⟩

/-- The markers on a pane that an overlay tracks. -/
def own (o : Overlay) (p : Pane) : List Marker := p.markers.filter fun m => m.id ∈ o.tracked

/-- The markers on a pane that an overlay does not track. -/
def others (o : Overlay) (p : Pane) : List Marker := p.markers.filter fun m => m.id ∉ o.tracked

theorem others_eq (o : Overlay) (p : Pane) :
    o.others p = p.markers.filter fun m => !o.tracked.contains m.id :=
  List.filter_congr fun m _ => by simp

theorem flatMap_underlines (ds : List Diagnostic) : ds.flatMap underlines = lines ds := by
  rw [lines, Diagnostic.flatMap_placed]
  congr 1
  funext d
  unfold underlines
  cases d.span with
  | none => rfl
  | some s =>
    show _ = _ :: (placed d.context).map _
    rw [Diagnostic.map_placed]
    rfl

theorem filterMap_annotation? (ds : List Diagnostic) :
    ds.filterMap annotation? =
      (placed ds).map fun (d, s) => ⟨⟨s.row, s.start⟩, d.detailText, .error⟩ := by
  rw [Diagnostic.map_placed]
  rfl

/-! ## Whose markers -/

variable {p : Pane}

/-- The markers of a drawing have numbers that none on the pane has. -/
theorem not_mem_tracked_draw (h : p.Numbered) (o : Overlay) (log : Log) (ds : List Diagnostic)
    {m : Marker} (hm : m ∈ p.markers) : m.id ∉ (o.draw p log ds).overlay.tracked := by
  rw [draw_tracked]
  intro hid
  obtain ⟨new, hnew, heq⟩ := List.mem_map.1 hid
  have hlt := h m hm
  rw [← heq] at hlt
  exact absurd (le_id_of_mem_numberFrom hnew).1 (Nat.not_le.2 hlt)

/-- What the overlay that drew tracks on the pane is the drawing. -/
theorem own_draw (h : p.Numbered) (o : Overlay) (log : Log) (ds : List Diagnostic) :
    (o.draw p log ds).overlay.own (o.draw p log ds).pane = markersOf p.nextMarker ds := by
  have hold : (p.markers.filter fun m => !o.tracked.contains m.id).filter
      (fun m => m.id ∈ (o.draw p log ds).overlay.tracked) = [] := by
    refine List.filter_eq_nil_iff.2 fun m hm => ?_
    simpa using not_mem_tracked_draw h o log ds (List.mem_filter.1 hm).1
  have hnew : (markersOf p.nextMarker ds).filter
      (fun m => m.id ∈ (o.draw p log ds).overlay.tracked) = markersOf p.nextMarker ds := by
    refine List.filter_eq_self.2 fun m hm => ?_
    rw [draw_tracked]
    exact decide_eq_true (List.mem_map_of_mem hm)
  rw [own, draw_pane, List.filter_append, hold, hnew, List.nil_append]

/-- The other markers are those that the overlay did not track before. -/
theorem others_draw (h : p.Numbered) (o : Overlay) (log : Log) (ds : List Diagnostic) :
    (o.draw p log ds).overlay.others (o.draw p log ds).pane = o.others p := by
  have hold : (p.markers.filter fun m => !o.tracked.contains m.id).filter
      (fun m => m.id ∉ (o.draw p log ds).overlay.tracked) = o.others p := by
    rw [others_eq]
    refine List.filter_eq_self.2 fun m hm => ?_
    exact decide_eq_true (not_mem_tracked_draw h o log ds (List.mem_filter.1 hm).1)
  have hnew : (markersOf p.nextMarker ds).filter
      (fun m => m.id ∉ (o.draw p log ds).overlay.tracked) = [] := by
    refine List.filter_eq_nil_iff.2 fun m hm => ?_
    rw [draw_tracked]
    simpa using List.mem_map_of_mem hm
  rw [others, draw_pane, List.filter_append, hold, hnew, List.append_nil]

theorem numbered_draw (h : p.Numbered) (o : Overlay) (log : Log) (ds : List Diagnostic) :
    (o.draw p log ds).pane.Numbered := by
  rw [draw_pane]
  intro m hm
  show m.id < p.nextMarker + (ds.flatMap underlines).length
  rcases List.mem_append.1 hm with hm | hm
  · exact Nat.lt_add_right _ (h m (List.mem_filter.1 hm).1)
  · exact (le_id_of_mem_numberFrom hm).2

/-! ## All that a drawing leaves -/

/-- What `out` shows on the pane `p` and in the log is a drawing of `ds` in place of what the
overlay `o` drew before. -/
structure Drawing.Pictures (out : Drawing) (o : Overlay) (p : Pane) (log : Log)
    (ds : List Diagnostic) : Prop where
  text : out.pane.text = p.text
  /-- one annotation for each diagnostic with a place, where that begins -/
  annotations : out.pane.annotations =
    (placed ds).map fun (d, s) => ⟨⟨s.row, s.start⟩, d.detailText, .error⟩
  /-- what the overlay tracked before is gone, and the drawing comes behind the rest -/
  markers : out.pane.markers = o.others p ++ out.overlay.own out.pane
  others : out.overlay.others out.pane = o.others p
  /-- the numbers tracked are the next ones, each that of one marker, and they are used up -/
  tracked : out.overlay.tracked = List.range' p.nextMarker (lines ds).length
  ids : (out.overlay.own out.pane).map (·.id) = out.overlay.tracked
  nextMarker : out.pane.nextMarker = p.nextMarker + out.overlay.tracked.length
  underlines : (out.overlay.own out.pane).map underlineOf = lines ds
  /-- one message for each diagnostic without a place -/
  messages : out.log =
    log ++ (ds.filter fun d => !d.positioned).map fun d => ⟨.error, d.detailText⟩
  /-- what was drawn is counted -/
  annotations_count : out.drawn.annotations = out.pane.annotations.length
  markers_count : out.drawn.markers = out.overlay.tracked.length
  messages_count : log.length + out.drawn.messages = out.log.length

theorem draw_pictures (h : p.Numbered) (o : Overlay) (log : Log) (ds : List Diagnostic) :
    (o.draw p log ds).Pictures o p log ds := by
  have hown := own_draw h o log ds
  have hothers := others_draw h o log ds
  have htracked := draw_tracked o p log ds
  have hpane := draw_pane o p log ds
  have hids : (markersOf p.nextMarker ds).map (·.id) =
      List.range' p.nextMarker (lines ds).length := by
    rw [markersOf, map_id_numberFrom, flatMap_underlines]
  exact
    { text := by rw [hpane]
      annotations := by
        rw [hpane]
        exact filterMap_annotation? ds
      markers := by
        rw [hown, others_eq, hpane]
      others := hothers
      tracked := htracked.trans hids
      ids := by rw [hown, htracked]
      nextMarker := by
        rw [htracked, hids, List.length_range', hpane, flatMap_underlines]
      underlines := by
        rw [hown, markersOf, map_underlineOf_numberFrom, flatMap_underlines]
      messages := by rw [draw_log, ViewLemmas.messages_eq]
      annotations_count := by
        rw [hpane]
        rfl
      markers_count := rfl
      messages_count := by
        rw [draw_log, List.length_append]
        rfl }

/-- How much a drawing produced is told by the diagnostics. -/
theorem Drawing.Pictures.drawn_eq {out : Drawing} {o : Overlay} {log : Log} {ds : List Diagnostic}
    (h : out.Pictures o p log ds) :
    out.drawn = ⟨(placed ds).length, (lines ds).length,
      (ds.filter fun d => !d.positioned).length⟩ := by
  have hannotations := h.annotations_count
  have hmarkers := h.markers_count
  have hmessages := h.messages_count
  rw [h.annotations, List.length_map] at hannotations
  rw [h.tracked, List.length_range'] at hmarkers
  rw [h.messages, List.length_append, List.length_map, Nat.add_left_cancel_iff] at hmessages
  rw [← hannotations, ← hmarkers, ← hmessages]

end Overlay

/-! ## Drawings on a shared pane -/

namespace Board

variable {ι : Type}

theorem Tidy.numbered {b : Board ι} {out : List (Party ι × MarkerId)} {off : List MarkerId}
    (h : b.Tidy out off) : b.pane.Numbered :=
  fun _ hm => h.live_lt (List.mem_map_of_mem hm)

variable [DecidableEq ι]

/-- Drawing is exact, whatever was done to the pane before by its owner and by overlays, and
whatever the overlay that draws tracks. The annotations, the markers and the messages of the drawing
are those of the diagnostics, in their order; the markers get the next numbers, none of which the
pane ever gave before; the text, the markers of others and the messages that were there stay; and
what was drawn is counted. The place of a valid span goes from its start to the column after its
end, in the row before its line. Drawing the same again shows the same. -/
theorem draw_on_any_pane (text : String) (strokes : List (Stroke ι)) (o : Overlay) (log : Log)
    (ds : List Diagnostic) :
    let p := ((start text).after strokes).pane
    let out := o.draw p log ds
    let again := out.overlay.draw out.pane log ds
    out.Pictures o p log ds ∧
    (∀ e ∈ along given (start text) strokes, e.2 < p.nextMarker) ∧
    (∀ s : Span, Span.Valid s.line s.start s.last → ∃ row stop : UInt32,
      rangeOf s = ⟨⟨row, s.start⟩, ⟨row, stop⟩⟩ ∧
        row.toNat + 1 = s.line.toNat ∧ stop.toNat = s.last.toNat + 1) ∧
    again.pane.annotations = out.pane.annotations ∧
    (again.overlay.own again.pane).map Overlay.underlineOf =
      (out.overlay.own out.pane).map Overlay.underlineOf ∧
    again.overlay.others again.pane = o.others p ∧
    again.log = out.log ∧ again.drawn = out.drawn := by
  intro p out again
  have htidy := tidy_after text strokes
  have hfirst : out.Pictures o p log ds := Overlay.draw_pictures htidy.numbered o log ds
  have hsecond : again.Pictures out.overlay out.pane log ds :=
    Overlay.draw_pictures (Overlay.numbered_draw htidy.numbered o log ds) out.overlay log ds
  refine ⟨hfirst, htidy.given_lt, fun s hs => ⟨s.row, s.stop, rfl, hs.toNat_row, hs.toNat_stop⟩,
    ?_, ?_, ?_, ?_, ?_⟩
  · rw [hsecond.annotations, hfirst.annotations]
  · rw [hsecond.underlines, hfirst.underlines]
  · rw [hsecond.others, hfirst.others]
  · rw [hsecond.messages, hfirst.messages]
  · rw [hsecond.drawn_eq, hfirst.drawn_eq]

end Board

end CompileSession
