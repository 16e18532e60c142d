import CompileSession.Proofs.Drawing
import CompileSession.Proofs.Report.Carets
import CompileSession.Proofs.Response.Diagnostics
import CompileSession.Proofs.Response.Spelling

/-!
# Positions from the answer to the report

A position is 32 bits wide, and it is counted down by one when a line becomes a row, up by one when
the last column becomes the one after the end, and up again when a row gets its number in the
report. None of this ever wraps around or stops at the greatest number: the answer is decoded to
spans that leave room for it, at any depth of the context (`Span.Exact`), the markers that are
drawn lie where these spans are (`Overlay.Drawing.Sound`), and so do the rows of the report.

Results:
1. `Decoded.exact_of_among`: the spans of an answer.
2. `Overlay.Drawing.OfAnswer.sound`: the markers and annotations of a drawing.
3. `CompileSession.positions_stay_exact`: both, and the numbers of the rows of a report.
-/

namespace CompileSession

/-! ## Definitions -/

/-- A diagnostic is one of some diagnostics or stands in their contexts, at any depth. -/
inductive Diagnostic.Among (d : Diagnostic) : List Diagnostic → Prop where
  | here {ds : List Diagnostic} : d ∈ ds → Among d ds
  | within {ds : List Diagnostic} {e : Diagnostic} : e ∈ ds → Among d e.context → Among d ds

/-- A span is counted from line 1 and ends no earlier than it starts, and its row and the column
after its end are the numbers that they should be. -/
structure Span.Exact (s : Span) : Prop where
  line : 1 ≤ s.line.toNat
  order : s.start ≤ s.last
  room : s.last.toNat < 2 ^ 32 - 1
  row : s.row.toNat + 1 = s.line.toNat
  stop : s.stop.toNat = s.last.toNat + 1
  nonempty : s.start < s.stop

namespace Overlay

/-- The markers that a drawing tracks underline something, in a row that can be numbered, and the
annotations stand at the beginning of such markers. -/
structure Drawing.Sound (out : Drawing) : Prop where
  /-- each number that is tracked is that of one marker on the pane -/
  ids : (out.overlay.own out.pane).map (·.id) = out.overlay.tracked
  row : ∀ m ∈ out.overlay.own out.pane, Report.OnOneRow m
  nonempty : ∀ m ∈ out.overlay.own out.pane, m.range.start.column < m.range.stop.column
  numbered : ∀ m ∈ out.overlay.own out.pane, m.range.start.row.toNat + 1 < 2 ^ 32
  anchored : ∀ a ∈ out.pane.annotations, ∃ m ∈ out.overlay.own out.pane,
    m.kind = .errorMessage ∧ m.range.start = a.position

/-- The drawing of an answer with errors, by any overlay and on a pane to which anything was done
before. -/
inductive Drawing.OfAnswer : Drawing → Prop where
  | of {body text : String} {ds : List Diagnostic} {ws : List Warning}
      (strokes : List (Stroke Nat)) (o : Overlay) (log : Log) :
      Decoded.ofText body = .ok ⟨.errors ds, ws⟩ →
      OfAnswer (o.draw ((Board.start text).after strokes).pane log ds)

end Overlay

/-- What is on a pane comes from drawings of answers, be they of different ones. -/
structure Pane.FromAnswers (p : Pane) : Prop where
  markers : ∀ m ∈ p.markers, ∃ out : Overlay.Drawing, out.OfAnswer ∧ m ∈ out.overlay.own out.pane
  annotations : ∀ a ∈ p.annotations, ∃ out : Overlay.Drawing,
    out.OfAnswer ∧ a ∈ out.pane.annotations

/-! ## Spans -/

/-- A valid span is exact. -/
theorem Span.Valid.exact {s : Span} (h : Valid s.line s.start s.last) : s.Exact := by
  obtain ⟨hline, horder, hroom⟩ := Wire.valid_iff.1 h
  exact
    { line := hline
      order := h.2.1
      room := Nat.lt_of_le_of_lt hroom (by decide)
      row := h.toNat_row
      stop := h.toNat_stop
      nonempty := by
        rw [UInt32.lt_iff_toNat_lt, h.toNat_stop]
        exact Nat.lt_succ_of_le horder }

/-- The row of an exact span can be numbered, since it has a line. -/
theorem Span.Exact.row_lt {s : Span} (h : s.Exact) : s.row.toNat + 1 < 2 ^ 32 := by
  rw [h.row]
  exact s.line.toNat_lt

namespace Wire

theorem validate_span (r : Record) : r.validate.span = span? r.line r.start r.last := by
  cases r
  rfl

theorem validate_context (r : Record) : r.validate.context = validateAll r.context := by
  cases r
  rfl

theorem mem_validateAll {d : Diagnostic} {rs : List Record} :
    d ∈ validateAll rs ↔ ∃ r ∈ rs, r.validate = d := by
  induction rs with
  | nil => simp [validateAll]
  | cons r rs ih => rw [validateAll, List.mem_cons, ih, List.exists_mem_cons_iff, eq_comm]

/-- However deep it stands, the diagnostic is that of a record. -/
theorem exists_record_of_among {d : Diagnostic} {ds : List Diagnostic} (h : d.Among ds) :
    ∀ {rs : List Record}, ds = validateAll rs → ∃ r : Record, r.validate = d := by
  induction h with
  | here hd =>
    rintro rs rfl
    obtain ⟨r, -, hr⟩ := mem_validateAll.1 hd
    exact ⟨r, hr⟩
  | within he _ ih =>
    rintro rs rfl
    obtain ⟨r, -, rfl⟩ := mem_validateAll.1 he
    exact ih (validate_context r)

end Wire

/-- The spans of an answer are exact at any depth. -/
theorem Decoded.exact_of_among {body : String} {ds : List Diagnostic} {ws : List Warning}
    (h : ofText body = .ok ⟨.errors ds, ws⟩) {d : Diagnostic} {s : Span} (hd : d.Among ds)
    (hs : d.span = some s) : s.Exact := by
  obtain ⟨rs, hrs⟩ : ∃ rs, ds = Wire.validateAll rs := by
    unfold ofText at h
    split at h
    · cases h
    · obtain ⟨ms, items, rs, -, -, -, -, hconveys, -⟩ := ((errors_lose_nothing _ ds ws).1).1 h
      exact ⟨rs, (Wire.forall₂_conveys_iff rs).1 hconveys⟩
  obtain ⟨r, rfl⟩ := Wire.exists_record_of_among hd hrs
  rw [Wire.validate_span] at hs
  obtain ⟨-, -, -, hvalid⟩ := Wire.span?_eq_some_iff.1 hs
  exact hvalid.exact

/-! ## Drawings -/

open Diagnostic (placed)
open History (rangeOf)

theorem Diagnostic.mem_placed {ds : List Diagnostic} {d : Diagnostic} {s : Span} :
    (d, s) ∈ placed ds ↔ d ∈ ds ∧ d.span = some s := by
  simp only [placed, List.mem_filterMap, Option.map_eq_some_iff, Prod.mk.injEq]
  constructor
  · rintro ⟨e, he, s, hs, rfl, rfl⟩
    exact ⟨he, hs⟩
  · rintro ⟨hd, hs⟩
    exact ⟨d, hd, s, hs, rfl, rfl⟩

namespace Overlay

/-- What is underlined is the place of one of the diagnostics, or of one in their contexts. -/
theorem exists_span_of_mem_lines {ds : List Diagnostic} {u : Underline} (h : u ∈ lines ds) :
    ∃ (d : Diagnostic) (s : Span), d.Among ds ∧ d.span = some s ∧ u.range = rangeOf s := by
  obtain ⟨⟨d, s⟩, hplaced, hu⟩ := List.mem_flatMap.1 h
  obtain ⟨hd, hs⟩ := Diagnostic.mem_placed.1 hplaced
  rcases List.mem_cons.1 hu with rfl | hu
  · exact ⟨d, s, .here hd, hs, rfl⟩
  · obtain ⟨⟨c, t⟩, hc, rfl⟩ := List.mem_map.1 hu
    obtain ⟨hc, ht⟩ := Diagnostic.mem_placed.1 hc
    exact ⟨c, t, .within hd (.here hc), ht, rfl⟩

/-- A drawing of diagnostics whose spans are exact is sound. -/
theorem Drawing.Pictures.sound {out : Drawing} {o : Overlay} {p : Pane} {log : Log}
    {ds : List Diagnostic} (h : out.Pictures o p log ds)
    (hspans : ∀ {d : Diagnostic} {s : Span}, d.Among ds → d.span = some s → s.Exact) :
    out.Sound := by
  have hrange : ∀ m ∈ out.overlay.own out.pane, ∃ s : Span, s.Exact ∧ m.range = rangeOf s := by
    intro m hm
    have hline : underlineOf m ∈ lines ds := h.underlines ▸ List.mem_map_of_mem hm
    obtain ⟨d, s, hd, hs, hrange⟩ := exists_span_of_mem_lines hline
    exact ⟨s, hspans hd hs, hrange⟩
  refine ⟨h.ids, fun m hm => ?_, fun m hm => ?_, fun m hm => ?_, fun a ha => ?_⟩
  · obtain ⟨s, -, hm⟩ := hrange m hm
    rw [Report.OnOneRow, hm]
    rfl
  · obtain ⟨s, hs, hm⟩ := hrange m hm
    rw [hm]
    exact hs.nonempty
  · obtain ⟨s, hs, hm⟩ := hrange m hm
    rw [hm]
    exact hs.row_lt
  · rw [h.annotations] at ha
    obtain ⟨⟨d, s⟩, hplaced, rfl⟩ := List.mem_map.1 ha
    -- the underline of the diagnostic itself begins where its annotation stands
    have hline : (⟨rangeOf s, .errorMessage, .error⟩ : Underline) ∈ lines ds :=
      List.mem_flatMap.2 ⟨_, hplaced, List.mem_cons_self⟩
    rw [← h.underlines] at hline
    obtain ⟨m, hm, heq⟩ := List.mem_map.1 hline
    have hrange : m.range = rangeOf s := congrArg Underline.range heq
    refine ⟨m, hm, congrArg Underline.kind heq, ?_⟩
    rw [hrange]
    rfl

theorem Drawing.OfAnswer.sound {out : Drawing} (h : out.OfAnswer) : out.Sound := by
  obtain @⟨body, text, ds, ws, strokes, o, log, hdecoded⟩ := h
  have hpane := (Board.tidy_after text strokes).numbered
  exact (draw_pictures hpane o log ds).sound (Decoded.exact_of_among hdecoded)

end Overlay

/-! ## Reports -/

/-- Every row on which something stands can be numbered. -/
theorem Pane.FromAnswers.row_lt {p : Pane} (h : p.FromAnswers) {row : UInt32} (hrow : p.OnRow row) :
    row.toNat + 1 < 2 ^ 32 := by
  rcases hrow with ⟨m, hm, rfl⟩ | ⟨a, ha, rfl⟩
  · obtain ⟨out, hout, hm⟩ := h.markers m hm
    exact hout.sound.numbered m hm
  · obtain ⟨out, hout, ha⟩ := h.annotations a ha
    obtain ⟨m, hm, -, hstart⟩ := hout.sound.anchored a ha
    rw [← hstart]
    exact hout.sound.numbered m hm

theorem Pane.FromAnswers.toNat_number {p : Pane} (h : p.FromAnswers) {b : Report.Block}
    (hb : b ∈ Report.blocks p) :
    ∃ row : UInt32, row.toNat = b.row ∧ (row + 1).toNat = b.row + 1 := by
  obtain ⟨n, hn, rfl⟩ := List.mem_map.1 hb
  obtain ⟨row, rfl⟩ := Report.exists_row hn
  exact ⟨row, rfl, Report.toNat_number (h.row_lt (Report.mem_rows.1 hn))⟩

/-- Positions stay exact from an answer to the report. Each span of each diagnostic of an answer,
at any depth of the context, counts its line from 1 and has its start no later than its end and a
column after that, so its row is one less than its line and its end one more than its last
column. Whatever was done to the pane and whatever the overlay tracked, once such an answer is
drawn every marker that is tracked lies in one row and has a column at least, and every
annotation stands at the beginning of one of them that underlines an error. And where all that a
pane shows comes from such drawings, each row of its report has a number. -/
theorem positions_stay_exact :
    (∀ body ds ws, Decoded.ofText body = .ok ⟨.errors ds, ws⟩ →
      ∀ (d : Diagnostic) (s : Span), d.Among ds → d.span = some s → s.Exact) ∧
    (∀ out : Overlay.Drawing, out.OfAnswer → out.Sound) ∧
    ∀ p : Pane, p.FromAnswers → ∀ b ∈ Report.blocks p,
      ∃ row : UInt32, row.toNat = b.row ∧ (row + 1).toNat = b.row + 1 := by
  refine ⟨fun body ds ws h d s hd hs => ?_, fun out h => h.sound, fun p h b hb => h.toNat_number hb⟩
  exact Decoded.exact_of_among h hd hs

/-- An error at the greatest line and columns, explained by what is at the least ones. -/
def errorAtBothEnds : Diagnostic where
  text := "far"
  span := some ⟨4294967295, 4294967294, 4294967294⟩
  counterexample := none
  filename := none
  context := [⟨"near", some ⟨1, 0, 0⟩, none, none, []⟩]

/-- The answer with this error, as an array of its fields. -/
def answerAtBothEnds : Json :=
  let record (text : String) (line column : Int) : List Json :=
    [.text text, .number (.integer line), .number (.integer column), .number (.integer column)]
  .object [("errors", .array [.array (record "far" 4294967295 4294967294 ++
    [.null, .null, .array [.array (record "near" 1 0)]])]), ("result", .text "errors")]

theorem ofText_answerAtBothEnds :
    Decoded.ofText answerAtBothEnds.render = .ok ⟨.errors [errorAtBothEnds], []⟩ := by
  have hnumber {i : Int} (h : -2 ^ 63 ≤ i ∧ i < 2 ^ 64) : (Json.number (.integer i)).Canonical :=
    ⟨i, h.1, h.2, rfl⟩
  have hnear : Json.CanonicalItems [.text "near", .number (.integer 1), .number (.integer 0),
      .number (.integer 0)] :=
    ⟨trivial, hnumber (by decide), hnumber (by decide), hnumber (by decide), trivial⟩
  have hfar : Json.CanonicalItems [.text "far", .number (.integer 4294967295),
      .number (.integer 4294967294), .number (.integer 4294967294), .null, .null,
      .array [.array [.text "near", .number (.integer 1), .number (.integer 0),
        .number (.integer 0)]]] :=
    ⟨trivial, hnumber (by decide), hnumber (by decide), hnumber (by decide), trivial, trivial,
      ⟨hnear, trivial⟩, trivial⟩
  have hcanonical : answerAtBothEnds.Canonical :=
    ⟨by unfold Json.Ascending; decide, ⟨hfar, trivial⟩, trivial, trivial⟩
  rw [Decoded.ofText_render hcanonical (by decide)]
  rfl

/-- At both ends of the numbers the spans are exact, the drawing is sound and its rows are
numbered. -/
theorem positions_stay_exact_atBothEnds :
    let out := Overlay.empty.draw (.ofText "") [] [errorAtBothEnds]
    Span.Exact ⟨4294967295, 4294967294, 4294967294⟩ ∧ Span.Exact ⟨1, 0, 0⟩ ∧ out.Sound ∧
      out.overlay.tracked = [0, 1] ∧
      (Report.blocks out.pane).map (·.row) = [0, 4294967294] ∧
      ∃ row : UInt32, row.toNat = 4294967294 ∧ (row + 1).toNat = 4294967295 := by
  intro out
  obtain ⟨hspans, hdrawings, hreports⟩ := positions_stay_exact
  have hexact (d : Diagnostic) (s : Span) := hspans _ _ _ ofText_answerAtBothEnds d s
  have hout : out.OfAnswer := .of [] Overlay.empty [] ofText_answerAtBothEnds
  have hpane : out.pane.FromAnswers :=
    ⟨fun m hm => ⟨out, hout, hm⟩, fun a ha => ⟨out, hout, ha⟩⟩
  refine ⟨?_, ?_, hdrawings out hout, rfl, rfl, ?_⟩
  · exact hexact errorAtBothEnds _ (.here List.mem_cons_self) rfl
  · exact hexact _ _ (.within List.mem_cons_self (.here List.mem_cons_self)) rfl
  · exact hreports out.pane hpane _ (List.mem_cons_of_mem _ List.mem_cons_self)

end CompileSession
