import CompileSession.Proofs.Report.Carets
import CompileSession.Proofs.Text.Lines
import Mathlib.Algebra.GroupWithZero.Nat

/-!
# A report shows everything once

A report is the blocks of the rows on which something stands, from the top down, and then the
messages. `IsBlock` says what the lines of a block are, by the markers and annotations of its row.
No line of a block has a line feed inside, so the line feeds of a report count what it shows.

Results:
1. `Report.length_number_eq_iff`: when carets stand under the characters that they are meant for.
2. `Report.isBlock_lines`: each row has the block that it should have.
3. `Report.IsBlock.length_eq`, `Report.IsBlock.newline_not_mem`: how long a block is.
4. `Report.length_flatten_blocks`: how long all blocks are.
5. `Report.report_shows_once`: the report on any pane and log.
-/

namespace CompileSession.Report

/-! ## What a block is -/

/-- A line of carets for a marker under a line of `width` characters: a blank for each column before
its start, then at least one glyph, which tells an error from a place that explains it. -/
def Underlines (width : Nat) (m : Marker) (line : String) : Prop :=
  ∃ count : Nat, 0 < count ∧ line = "     | " ++ String.ofList
    (List.replicate (min m.range.start.column.toNat width) ' ' ++
      List.replicate count (if m.kind = .errorMessage then '^' else '-'))

/-- The lines that an annotation gets: those of its text, of which the first is labelled. -/
def noteOf (a : Annotation) : List String :=
  (Text.lines a.text).mapIdx fun i line =>
    (if i = 0 then "     = error: " else "              ") ++ line

/-- The lines of the block of a row: its line of the text behind its number, counted from 1; a line
of carets for each marker that starts on the row; and the lines of each annotation on it. The digits
of the number end in the fourth column (`suffix_padded`, `length_padded`), or later if there are
more of them. -/
inductive IsBlock (p : Pane) (row : UInt32) : List String → Prop where
  | of {carets : List String} :
      List.Forall₂ (Underlines (p.line row).length) (p.markersOn row) carets →
      IsBlock p row ((padded 4 (toString (row + 1).toNat) ++ " | " ++ p.line row) ::
        carets ++ (p.notesOn row).flatMap noteOf)

/-- The line of a row begins in the column in which its carets do, if the number of the row has no
more than four digits. -/
theorem length_number_eq_iff {n : Nat} :
    (padded 4 (toString n) ++ " | ").length = gutter.length ↔ n < 10 ^ 4 := by
  have hgutter : gutter.length = 4 + " | ".length := by decide
  have hmax : max 4 n.repr.length = 4 ↔ n.repr.length ≤ 4 := by omega
  rw [String.length_append, length_padded, hgutter, Nat.add_right_cancel_iff]
  exact hmax.trans (Nat.length_repr_le_iff (by decide))

/-! ## The blocks of a report -/

theorem noteLines_eq (lines : List String) :
    noteLines lines = lines.mapIdx fun i line =>
      (if i = 0 then "     = error: " else "              ") ++ line := by
  refine List.ext_getElem? fun i => ?_
  rw [List.getElem?_mapIdx]
  cases lines with
  | nil => rfl
  | cons line lines =>
    cases i with
    | zero => rfl
    | succ i => exact List.getElem?_map

theorem underlines_carets (width : Nat) (m : Marker) :
    Underlines width m (carets width m).line := by
  refine ⟨(carets width m).count, one_le_count width m, ?_⟩
  have hglyph : (carets width m).glyph = if m.kind = .errorMessage then '^' else '-' := by
    show glyph m.kind = _
    cases m.kind <;> rfl
  rw [← hglyph]
  rfl

theorem forall₂_underlines (width : Nat) (ms : List Marker) :
    List.Forall₂ (Underlines width) ms ((ms.map (carets width)).map Carets.line) := by
  rw [List.map_map, List.forall₂_map_right_iff]
  exact List.forall₂_same.2 fun m _ => underlines_carets width m

/-- Each row whose number can be counted from 1 has the block that it should have. -/
theorem isBlock_lines {p : Pane} {row : UInt32} (hrow : row.toNat + 1 < 2 ^ 32) :
    IsBlock p row (block (Text.lines p.text) p row.toNat).lines := by
  have hmarkers : p.markers.filter (·.range.start.row.toNat = row.toNat) = p.markersOn row :=
    List.filter_congr fun m _ => decide_eq_decide.2 UInt32.toNat_inj
  have hnotes : p.annotations.filter (·.position.row.toNat = row.toNat) = p.notesOn row :=
    List.filter_congr fun a _ => decide_eq_decide.2 UInt32.toNat_inj
  have hlines (as : List Annotation) :
      (as.map (Text.lines ·.text)).flatMap noteLines = as.flatMap noteOf := by
    rw [List.flatMap_map]
    exact List.flatMap_congr fun a _ => noteLines_eq _
  have hblock := IsBlock.of (forall₂_underlines (p.line row).length (p.markersOn row))
  rw [toNat_number hrow, ← hmarkers, ← hnotes, ← hlines] at hblock
  exact hblock

/-- The blocks of a report, each as its lines. -/
def blockLines (p : Pane) : List (List String) := (blocks p).map Block.lines

theorem forall₂_isBlock {p : Pane} (hrows : ∀ row, p.OnRow row → row.toNat + 1 < 2 ^ 32) :
    List.Forall₂ (IsBlock p) (shownRows p) (blockLines p) := by
  rw [blockLines, blocks, ← map_toNat_shownRows, List.map_map, List.map_map,
    List.forall₂_map_right_iff]
  exact List.forall₂_same.2 fun row hrow => isBlock_lines (hrows row (mem_shownRows.1 hrow))

/-! ## Line feeds -/

theorem newline_not_mem_line (p : Pane) (row : UInt32) : '\n' ∉ (p.line row).toList := by
  unfold Pane.line
  cases hline : (Text.lines p.text)[row.toNat]? with
  | none => exact List.not_mem_nil
  | some line => exact Text.newline_not_mem_lines (List.mem_of_getElem? hline)

theorem newline_not_mem_padded (width n : Nat) : '\n' ∉ (padded width (toString n)).toList := by
  rw [toList_padded, List.mem_append, not_or]
  refine ⟨fun h => absurd (List.eq_of_mem_replicate h) (by decide), fun h => ?_⟩
  rw [show toString n = n.repr from rfl, Nat.toList_repr] at h
  exact absurd (Nat.isDigit_of_mem_toDigits (by decide) (by decide) h) (by decide)

theorem Underlines.newline_not_mem {width : Nat} {m : Marker} {line : String}
    (h : Underlines width m line) : '\n' ∉ line.toList := by
  obtain ⟨count, -, rfl⟩ := h
  show '\n' ∉ (gutter ++ String.ofList _).toList
  rw [String.toList_append, String.toList_ofList, List.mem_append, List.mem_append, not_or, not_or]
  refine ⟨by decide, fun h => absurd (List.eq_of_mem_replicate h) (by decide), fun h => ?_⟩
  have hglyph := List.eq_of_mem_replicate h
  cases hkind : m.kind <;> simp [hkind] at hglyph

theorem newline_not_mem_of_underlines {width : Nat} {ms : List Marker} {ls : List String}
    (h : List.Forall₂ (Underlines width) ms ls) : ∀ line ∈ ls, '\n' ∉ line.toList := by
  induction h with
  | nil => exact fun _ hline => absurd hline List.not_mem_nil
  | cons hfirst _ ih => exact List.forall_mem_cons.2 ⟨hfirst.newline_not_mem, ih⟩

theorem newline_not_mem_noteOf {a : Annotation} : ∀ line ∈ noteOf a, '\n' ∉ line.toList := by
  intro line hline
  obtain ⟨i, hi, rfl⟩ := List.mem_mapIdx.1 hline
  rw [String.toList_append, List.mem_append, not_or]
  refine ⟨?_, Text.newline_not_mem_lines (List.getElem_mem hi)⟩
  split <;> decide

namespace IsBlock

variable {p : Pane} {row : UInt32} {ls : List String}

/-- No line of a block has a line feed. -/
theorem newline_not_mem (h : IsBlock p row ls) : ∀ line ∈ ls, '\n' ∉ line.toList := by
  obtain ⟨hcarets⟩ := h
  intro line hline
  rcases List.mem_append.1 hline with hline | hline
  · rcases List.mem_cons.1 hline with rfl | hline
    · rw [String.toList_append, String.toList_append, List.mem_append, List.mem_append, not_or,
        not_or]
      exact ⟨⟨newline_not_mem_padded 4 _, by decide⟩, newline_not_mem_line p row⟩
    · exact newline_not_mem_of_underlines hcarets line hline
  · obtain ⟨a, -, hline⟩ := List.mem_flatMap.1 hline
    exact newline_not_mem_noteOf line hline

/-- A block has a line for its row, one for each marker, and those of its annotations. -/
theorem length_eq (h : IsBlock p row ls) :
    ls.length = 1 + (p.markersOn row).length + ((p.notesOn row).flatMap noteOf).length := by
  obtain ⟨hcarets⟩ := h
  rw [List.length_append, List.length_cons, ← hcarets.length_eq, Nat.add_comm 1]

end IsBlock

theorem newline_not_mem_blocks {p : Pane} {rows : List UInt32} {blocks : List (List String)}
    (h : List.Forall₂ (IsBlock p) rows blocks) :
    ∀ line ∈ blocks.flatten, '\n' ∉ line.toList := by
  induction h with
  | nil => exact fun _ hline => absurd hline List.not_mem_nil
  | cons hblock _ ih => exact List.forall_mem_append.2 ⟨hblock.newline_not_mem, ih⟩

/-- All blocks have a line for each row, one for each marker that starts on one of the rows, and
those of the annotations on them. -/
theorem length_flatten_blocks {p : Pane} {rows : List UInt32} {blocks : List (List String)}
    (h : List.Forall₂ (IsBlock p) rows blocks) :
    blocks.flatten.length = rows.length + (rows.flatMap p.markersOn).length +
      ((rows.flatMap p.notesOn).flatMap noteOf).length := by
  induction h with
  | nil => rfl
  | @cons row ls rows blocks hblock hblocks ih =>
    rw [List.flatten_cons, List.length_append, hblock.length_eq, ih, List.flatMap_cons,
      List.flatMap_cons, List.flatMap_append, List.length_append, List.length_append,
      List.length_cons]
    omega

/-- Every line ends with a line feed, which comes to those that it has inside. -/
theorem count_newline_join (ls : List String) :
    (String.join (ls.map (· ++ "\n"))).toList.count '\n' =
      (ls.map fun line => line.toList.count '\n' + 1).sum := by
  rw [String.toList_join, List.count_flatMap, List.map_map]
  refine congrArg List.sum (List.map_congr_left fun line _ => ?_)
  show (line ++ "\n").toList.count '\n' = _
  rw [String.toList_append, List.count_append]
  rfl

theorem sum_newline_of_not_mem {ls : List String} (h : ∀ line ∈ ls, '\n' ∉ line.toList) :
    (ls.map fun line => line.toList.count '\n' + 1).sum = ls.length := by
  have hone : (ls.map fun line => line.toList.count '\n' + 1) = ls.map fun _ => 1 :=
    List.map_congr_left fun line hline => by rw [List.count_eq_zero.2 (h line hline)]
  rw [hone, List.map_const', List.sum_replicate_nat, Nat.mul_one]

/-! ## The report -/

theorem messageLine_eq (m : Message) :
    messageLine m = (if m.tone = .success then "[ok] " else "[error] ") ++ m.text := by
  unfold messageLine
  cases m.tone <;> rfl

theorem lines_eq (p : Pane) (log : Log) :
    lines p log = (blockLines p).flatten ++ log.map messageLine := by
  rw [lines, blockLines, List.flatMap_def]

theorem count_newline_messageLine (m : Message) :
    (messageLine m).toList.count '\n' = m.text.toList.count '\n' := by
  have hmark : ((if m.tone = .success then "[ok] " else "[error] " : String).toList).count '\n' =
      0 := by
    split <;> rfl
  rw [messageLine_eq, String.toList_append, List.count_append, hmark, Nat.zero_add]

/-- The line feeds of a report: one for each line of a block, and those of the messages. -/
theorem count_newline_render {p : Pane}
    (hblocks : List.Forall₂ (IsBlock p) (shownRows p) (blockLines p)) (log : Log) :
    (render p log).toList.count '\n' = (blockLines p).flatten.length +
      (log.map fun m => m.text.toList.count '\n' + 1).sum := by
  rw [render, count_newline_join, lines_eq, List.map_append, List.sum_append_nat,
    sum_newline_of_not_mem (newline_not_mem_blocks hblocks), List.map_map]
  congr 2
  exact List.map_congr_left fun m _ => congrArg (· + 1) (count_newline_messageLine m)

/-- A report shows everything once. It is made of one block for each row on which a marker starts
or an annotation stands, from the top down, and of the messages in their order; a block has the
number of its row, counted from 1, with its line of the text or none, then the carets of the
markers and the lines of the annotations of that row. Taken row by row, the markers and the
annotations are those of the pane, each in one block, and the markers of a row stay in the order
of their numbers. The line feeds are one for each row, one for each marker, one for each line of
an annotation, and for each message those in it and one more. What the lines of a text are,
`Text.lines_eq_iff` says. -/
theorem report_shows_once (p : Pane) (log : Log)
    (hrows : ∀ row, p.OnRow row → row.toNat + 1 < 2 ^ 32) :
    ∃ (rows : List UInt32) (blocks : List (List String)),
      rows.Pairwise (· < ·) ∧ (∀ row, row ∈ rows ↔ p.OnRow row) ∧
      (∀ row ∈ rows, (row + 1).toNat = row.toNat + 1) ∧
      List.Forall₂ (IsBlock p) rows blocks ∧
      render p log = String.join ((blocks.flatten ++ log.map fun m =>
        (if m.tone = .success then "[ok] " else "[error] ") ++ m.text).map (· ++ "\n")) ∧
      (rows.flatMap p.markersOn).Perm p.markers ∧
      (rows.flatMap p.notesOn).Perm p.annotations ∧
      (p.markers.Pairwise (·.id < ·.id) → ∀ row, (p.markersOn row).Pairwise (·.id < ·.id)) ∧
      (render p log).toList.count '\n' = rows.length + p.markers.length +
        (p.annotations.map fun a => (Text.lines a.text).length).sum +
        (log.map fun m => m.text.toList.count '\n' + 1).sum := by
  have hblocks := forall₂_isBlock hrows
  have hnodup : (shownRows p).Nodup := (pairwise_shownRows p).imp UInt32.ne_of_lt
  have hmarkers := perm_markersOn hnodup fun _ => mem_shownRows
  have hnotes := perm_notesOn hnodup fun _ => mem_shownRows
  refine ⟨shownRows p, blockLines p, pairwise_shownRows p, fun _ => mem_shownRows,
    fun row hrow => ?_, hblocks, ?_, hmarkers, hnotes,
    fun hids row => hids.sublist List.filter_sublist, ?_⟩
  · exact toNat_number (hrows row (mem_shownRows.1 hrow))
  · rw [render, lines_eq]
    congr 3
    exact List.map_congr_left fun m _ => messageLine_eq m
  · rw [count_newline_render hblocks, length_flatten_blocks hblocks, hmarkers.length_eq,
      (hnotes.flatMap_right noteOf).length_eq, List.length_flatMap]
    congr 3
    exact List.map_congr_left fun a _ => List.length_mapIdx

/-- A pane of two lines with a marker and an annotation past them, which come first. -/
def paneWithRowPastText : Pane where
  text := "ab\ncd"
  annotations := [⟨⟨7, 0⟩, "one\ntwo", .error⟩, ⟨⟨0, 1⟩, "", .error⟩]
  markers := [⟨2, ⟨⟨7, 5⟩, ⟨7, 6⟩⟩, .errorMessage, .error⟩,
    ⟨4, ⟨⟨0, 1⟩, ⟨0, 2⟩⟩, .contextMessage, .info⟩]
  nextMarker := 5

theorem report_shows_once_pastText :
    (∀ row, paneWithRowPastText.OnRow row → row.toNat + 1 < 2 ^ 32) ∧
      ∃ (rows : List UInt32) (blocks : List (List String)), 0 ∈ rows ∧ 1 ∉ rows ∧ 7 ∈ rows ∧
        rows.Pairwise (· < ·) ∧ List.Forall₂ (IsBlock paneWithRowPastText) rows blocks ∧
        (rows.flatMap paneWithRowPastText.markersOn).Perm paneWithRowPastText.markers ∧
        render paneWithRowPastText [⟨.error, "a\nb"⟩] =
          String.join ((blocks.flatten ++ ["[error] a\nb"]).map (· ++ "\n")) := by
  have hrow (row : UInt32) : paneWithRowPastText.OnRow row ↔ row = 7 ∨ row = 0 := by
    simp only [Pane.OnRow, paneWithRowPastText, List.exists_mem_cons_iff, List.not_mem_nil,
      false_and, exists_false, or_false, or_self, eq_comm]
  have hrows : ∀ row, paneWithRowPastText.OnRow row → row.toNat + 1 < 2 ^ 32 := by
    intro row h
    rcases (hrow row).1 h with rfl | rfl <;> decide
  obtain ⟨rows, blocks, hpairwise, hmem, -, hblocks, hrender, hmarkers, -⟩ :=
    report_shows_once paneWithRowPastText [⟨.error, "a\nb"⟩] hrows
  refine ⟨hrows, rows, blocks, ?_, ?_, ?_, hpairwise, hblocks, hmarkers, hrender⟩
  · exact (hmem 0).2 ((hrow 0).2 (.inr rfl))
  · exact fun h => absurd ((hrow 1).1 ((hmem 1).1 h)) (by decide)
  · exact (hmem 7).2 ((hrow 7).2 (.inl rfl))

end CompileSession.Report
