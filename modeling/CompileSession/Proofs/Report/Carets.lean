import CompileSession.Proofs.Report.Rows

/-!
# Carets and their line

Under the line in which a marker starts stands a line of carets, and it is no wider than the line
above it, whatever columns and rows the marker names: a column past the line counts as its end, and
so does the end of a marker in another row. Only a marker that starts at the end of the line or past
it has its one caret in the column behind.

Columns are counted from behind the gutter, which both lines have (`Carets.Covers`).

Results:
1. `Report.blanks_add_count`: where the carets end; the lemmas after it say so case by case.
2. `Report.covers_iff`: the columns that the carets cover.
3. `Report.carets_fit_line`: the line of carets of any marker on any pane.
-/

namespace CompileSession.Report

/-- What stands in front of the carets. -/
def gutter : String := "     | "

/-- The line of carets shows its glyph under a column of the source line. -/
def Carets.Covers (c : Carets) (column : Nat) : Prop :=
  (c.line.toList.drop gutter.length)[column]? = some c.glyph

/-- A marker ends in the row in which it starts. -/
def OnOneRow (m : Marker) : Prop := m.range.stop.row = m.range.start.row

instance (m : Marker) : Decidable (OnOneRow m) := decEq _ _

theorem glyph_ne_blank (kind : MarkerClass) : glyph kind ≠ ' ' := by
  cases kind <;> decide

/-! ## Where carets end -/

section
variable (width : Nat) (m : Marker)

/-- The carets end where the marker does, cut to the line, or behind the first of them. Nothing is
taken from a smaller number. -/
theorem blanks_add_count :
    (carets width m).blanks + (carets width m).count =
      max (if OnOneRow m then min m.range.stop.column.toNat width else width)
        ((carets width m).blanks + 1) :=
  Nat.add_sub_of_le (Nat.le_trans (Nat.le_succ _) (Nat.le_max_right _ _))

theorem one_le_count : 1 ≤ (carets width m).count := by
  have hle := Nat.le_max_right (if OnOneRow m then min m.range.stop.column.toNat width else width)
    ((carets width m).blanks + 1)
  rw [← blanks_add_count] at hle
  exact Nat.le_of_add_le_add_left hle

theorem stop_le_width :
    (if OnOneRow m then min m.range.stop.column.toNat width else width) ≤ width := by
  split
  · exact Nat.min_le_right _ _
  · exact Nat.le_refl _

theorem blanks_add_count_le : (carets width m).blanks + (carets width m).count ≤ width + 1 := by
  rw [blanks_add_count]
  refine Nat.max_le.2 ⟨Nat.le_succ_of_le (stop_le_width width m), Nat.succ_le_succ ?_⟩
  exact Nat.min_le_right _ _

end

variable {width : Nat} {m : Marker}

theorem blanks_eq_start (h : m.range.start.column.toNat ≤ width) :
    (carets width m).blanks = m.range.start.column.toNat := Nat.min_eq_left h

theorem blanks_eq_width (h : width ≤ m.range.start.column.toNat) :
    (carets width m).blanks = width := Nat.min_eq_right h

/-- The carets go past the line only if the marker starts there. -/
theorem blanks_add_count_eq_iff :
    (carets width m).blanks + (carets width m).count = width + 1 ↔
      width ≤ m.range.start.column.toNat := by
  have hstop := stop_le_width width m
  rw [blanks_add_count]
  constructor
  · intro h
    by_contra hlt
    rw [blanks_eq_start (Nat.le_of_not_le hlt)] at h
    omega
  · intro hle
    rw [blanks_eq_width hle]
    exact Nat.max_eq_right (Nat.le_succ_of_le hstop)

/-- A marker within the line has its carets from its start to its end. -/
theorem blanks_add_count_of_within (hrow : OnOneRow m)
    (hlt : m.range.start.column.toNat < m.range.stop.column.toNat)
    (hle : m.range.stop.column.toNat ≤ width) :
    (carets width m).blanks + (carets width m).count = m.range.stop.column.toNat := by
  rw [blanks_add_count, if_pos hrow, Nat.min_eq_left hle,
    blanks_eq_start (Nat.le_of_lt (Nat.lt_of_lt_of_le hlt hle))]
  exact Nat.max_eq_left hlt

/-- A marker that goes past the end of the line has its carets to that end. -/
theorem blanks_add_count_of_past (hlt : m.range.start.column.toNat < width)
    (hpast : ¬ OnOneRow m ∨ width < m.range.stop.column.toNat) :
    (carets width m).blanks + (carets width m).count = width := by
  have hstop : (if OnOneRow m then min m.range.stop.column.toNat width else width) = width := by
    split
    · rename_i hrow
      exact Nat.min_eq_right (Nat.le_of_lt (hpast.resolve_left (not_not_intro hrow)))
    · rfl
  rw [blanks_add_count, hstop, blanks_eq_start (Nat.le_of_lt hlt)]
  exact Nat.max_eq_left hlt

/-- A marker that ends no later than it starts has one caret. -/
theorem count_of_reversed (hrow : OnOneRow m)
    (hle : m.range.stop.column.toNat ≤ m.range.start.column.toNat) :
    (carets width m).count = 1 := by
  have hstop : min m.range.stop.column.toNat width ≤ (carets width m).blanks :=
    Nat.le_min.2 ⟨Nat.le_trans (Nat.min_le_left _ _) hle, Nat.min_le_right _ _⟩
  have hsum := blanks_add_count width m
  rw [if_pos hrow, Nat.max_eq_right (Nat.le_succ_of_le hstop)] at hsum
  exact Nat.add_left_cancel hsum

/-! ## The line -/

theorem toList_line (c : Carets) :
    c.line.toList = gutter.toList ++
      (List.replicate c.blanks ' ' ++ List.replicate c.count c.glyph) := by
  show (gutter ++ String.ofList _).toList = _
  rw [String.toList_append, String.toList_ofList]

theorem length_line (c : Carets) : c.line.length = gutter.length + (c.blanks + c.count) := by
  rw [← String.length_toList, toList_line, List.length_append, List.length_append,
    List.length_replicate, List.length_replicate, String.length_toList]

/-- The carets cover the columns behind the blanks. -/
theorem covers_iff {c : Carets} (hglyph : c.glyph ≠ ' ') {column : Nat} :
    c.Covers column ↔ c.blanks ≤ column ∧ column < c.blanks + c.count := by
  rw [Carets.Covers, toList_line, List.drop_left' String.length_toList, List.getElem?_append,
    List.length_replicate]
  split
  · rename_i hlt
    rw [List.getElem?_replicate, if_pos hlt]
    constructor
    · intro h
      exact absurd (Option.some.inj h).symm hglyph
    · intro h
      exact absurd hlt (Nat.not_lt.2 h.1)
  · rename_i hle
    rw [List.getElem?_replicate]
    have hle := Nat.not_lt.1 hle
    by_cases hlt : column - c.blanks < c.count
    · rw [if_pos hlt]
      exact iff_of_true rfl ⟨hle, (Nat.sub_lt_iff_lt_add' hle).1 hlt⟩
    · rw [if_neg hlt]
      exact iff_of_false nofun fun h => hlt ((Nat.sub_lt_iff_lt_add' hle).2 h.2)

/-! ## The carets of a report -/

/-- The carets of a marker on a pane stand in its report. -/
theorem line_mem_lines {p : Pane} {m : Marker} (h : m ∈ p.markers) (log : Log) :
    (carets (p.line m.range.start.row).length m).line ∈ lines p log := by
  have hrow : m.range.start.row.toNat ∈ rows p := mem_rows.2 (.inl ⟨m, h, rfl⟩)
  have hcarets : carets (p.line m.range.start.row).length m ∈
      (block (Text.lines p.text) p m.range.start.row.toNat).carets :=
    List.mem_map_of_mem (List.mem_filter.2 ⟨h, decide_eq_true rfl⟩)
  refine List.mem_append_left _ (List.mem_flatMap.2 ⟨_, List.mem_map_of_mem hrow, ?_⟩)
  exact List.mem_append_left _ (List.mem_cons_of_mem _ (List.mem_map_of_mem hcarets))

/-- The line of carets fits the line of the text above it, whatever row and columns a marker names,
be they past the text or the line, or out of order. It has a blank for each column before the start
of the marker, as far as the line goes, and then at least one caret; where the carets end is no
smaller than where they begin. All of it is no wider than the line, but for the one column behind
it if the marker starts there or further on. The carets cover just the columns of a marker that lies
within the line, and go to the end of the line for one that starts within it and goes further; a
marker that ends in its row no later than it starts has one caret. -/
theorem carets_fit_line (p : Pane) (m : Marker) :
    let width := (p.line m.range.start.row).length
    let start := m.range.start.column.toNat
    let stop := m.range.stop.column.toNat
    let c := carets width m
    (∀ log, m ∈ p.markers → c.line ∈ lines p log) ∧
    c.line.toList = gutter.toList ++ (List.replicate (min start width) ' ' ++
      List.replicate c.count (glyph m.kind)) ∧
    1 ≤ c.count ∧
    min start width + c.count =
      max (if OnOneRow m then min stop width else width) (min start width + 1) ∧
    min start width + c.count ≤ width + 1 ∧ c.line.length ≤ gutter.length + (width + 1) ∧
    (min start width + c.count = width + 1 ↔ width ≤ start) ∧
    (OnOneRow m → start < stop → stop ≤ width →
      ∀ column, c.Covers column ↔ start ≤ column ∧ column < stop) ∧
    (start < width → (¬ OnOneRow m ∨ width < stop) →
      ∀ column, c.Covers column ↔ start ≤ column ∧ column < width) ∧
    (OnOneRow m → stop ≤ start → c.count = 1) := by
  intro width start stop c
  refine ⟨fun log hm => line_mem_lines hm log, toList_line c, one_le_count width m,
    blanks_add_count width m, blanks_add_count_le width m, ?_, blanks_add_count_eq_iff,
    fun hrow hlt hle column => ?_, fun hlt hpast column => ?_, count_of_reversed⟩
  · rw [length_line]
    exact Nat.add_le_add_left (blanks_add_count_le width m) _
  · rw [covers_iff (glyph_ne_blank m.kind), blanks_add_count_of_within hrow hlt hle,
      blanks_eq_start (Nat.le_of_lt (Nat.lt_of_lt_of_le hlt hle))]
  · rw [covers_iff (glyph_ne_blank m.kind), blanks_add_count_of_past hlt hpast,
      blanks_eq_start (Nat.le_of_lt hlt)]

example : (carets 4 ⟨0, ⟨⟨0, 9⟩, ⟨0, 20⟩⟩, .errorMessage, .error⟩).line = "     |     ^" := by
  decide

end CompileSession.Report
