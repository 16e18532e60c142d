import CompileSession.Report
import Mathlib.Algebra.Group.Nat.Defs
import Mathlib.Data.List.Nodup

/-!
# The rows of a report

A report has one block for each row of the pane on which something stands: a marker that starts
there, or an annotation. The rows are gathered from the markers and the annotations and put in their
places one by one, and each block then looks for its own markers and annotations again. Nothing is
lost or shown twice by that.

Results:
1. `Report.pairwise_insertRow`, `Report.mem_insertRow`: what one row adds.
2. `Report.pairwise_shownRows`, `Report.mem_shownRows`: the rows of a report.
3. `Report.perm_markersOn`, `Report.perm_notesOn`: what is looked for row by row is found once.
-/

namespace CompileSession

/-- Something stands on a row: a marker starts there, or an annotation is there. -/
def Pane.OnRow (p : Pane) (row : UInt32) : Prop :=
  (∃ m ∈ p.markers, m.range.start.row = row) ∨ ∃ a ∈ p.annotations, a.position.row = row

/-- The line of the text in a row. A row past the text has an empty one. -/
def Pane.line (p : Pane) (row : UInt32) : String := (Text.lines p.text)[row.toNat]?.getD ""

/-- The markers that start on a row, in the order of the pane. -/
def Pane.markersOn (p : Pane) (row : UInt32) : List Marker :=
  p.markers.filter (·.range.start.row = row)

/-- The annotations on a row, in the order of the pane. -/
def Pane.notesOn (p : Pane) (row : UInt32) : List Annotation :=
  p.annotations.filter (·.position.row = row)

namespace Report

/-! ## Putting rows in their places -/

theorem mem_insertRow {row other : Nat} {rows : List Nat} :
    other ∈ insertRow row rows ↔ other = row ∨ other ∈ rows := by
  induction rows with
  | nil => simp [insertRow]
  | cons first rows ih =>
    unfold insertRow
    split
    · exact List.mem_cons
    split
    · rename_i heq
      rw [heq]
      exact ⟨.inr, fun h => h.elim (fun he => he ▸ List.mem_cons_self) id⟩
    · rw [List.mem_cons, ih, List.mem_cons]
      exact or_left_comm

/-- A row that is put in its place keeps the order, and is not there twice. -/
theorem pairwise_insertRow {row : Nat} {rows : List Nat} (h : rows.Pairwise (· < ·)) :
    (insertRow row rows).Pairwise (· < ·) := by
  induction rows with
  | nil => exact List.pairwise_singleton _ row
  | cons first rows ih =>
    obtain ⟨hfirst, hrows⟩ := List.pairwise_cons.1 h
    unfold insertRow
    split
    · rename_i hlt
      refine List.pairwise_cons.2 ⟨fun other hother => ?_, h⟩
      rcases List.mem_cons.1 hother with rfl | hother
      · exact hlt
      · exact Nat.lt_trans hlt (hfirst other hother)
    split
    · exact h
    · rename_i hle hne
      refine List.pairwise_cons.2 ⟨fun other hother => ?_, ih hrows⟩
      rcases mem_insertRow.1 hother with rfl | hother
      · exact Nat.lt_of_le_of_ne (Nat.not_lt.1 hle) (Ne.symm hne)
      · exact hfirst other hother

theorem pairwise_foldr_insertRow (found : List Nat) :
    (found.foldr insertRow []).Pairwise (· < ·) := by
  induction found with
  | nil => exact .nil
  | cons row found ih => exact pairwise_insertRow ih

theorem mem_foldr_insertRow {found : List Nat} {row : Nat} :
    row ∈ found.foldr insertRow [] ↔ row ∈ found := by
  induction found with
  | nil => exact Iff.rfl
  | cons first found ih => rw [List.foldr_cons, mem_insertRow, ih, List.mem_cons]

/-! ## The rows of a pane -/

/-- The rows of a report, as the pane has them. -/
def shownRows (p : Pane) : List UInt32 := (rows p).map UInt32.ofNat

theorem mem_rows {p : Pane} {row : UInt32} : row.toNat ∈ rows p ↔ p.OnRow row := by
  simp only [rows, mem_foldr_insertRow, List.mem_append, List.mem_map, UInt32.toNat_inj]
  exact Iff.rfl

theorem exists_row {p : Pane} {n : Nat} (h : n ∈ rows p) : ∃ row : UInt32, row.toNat = n := by
  rw [rows, mem_foldr_insertRow, List.mem_append, List.mem_map, List.mem_map] at h
  rcases h with ⟨m, -, rfl⟩ | ⟨a, -, rfl⟩
  · exact ⟨_, rfl⟩
  · exact ⟨_, rfl⟩

theorem map_toNat_shownRows (p : Pane) : (shownRows p).map UInt32.toNat = rows p := by
  rw [shownRows, List.map_map]
  refine (List.map_congr_left fun n hn => ?_).trans (List.map_id _)
  obtain ⟨row, rfl⟩ := exists_row hn
  exact congrArg UInt32.toNat UInt32.ofNat_toNat

theorem mem_shownRows {p : Pane} {row : UInt32} : row ∈ shownRows p ↔ p.OnRow row := by
  rw [← mem_rows, ← map_toNat_shownRows]
  exact (List.mem_map_of_injective fun _ _ => UInt32.toNat_inj.1).symm

theorem pairwise_shownRows (p : Pane) : (shownRows p).Pairwise (· < ·) := by
  have h := pairwise_foldr_insertRow (p.markers.map (·.range.start.row.toNat) ++
    p.annotations.map (·.position.row.toNat))
  rw [← rows, ← map_toNat_shownRows, List.pairwise_map] at h
  exact h.imp UInt32.lt_iff_toNat_lt.2

/-- A row that is not the last one that there can be has a number, counted from 1. -/
theorem toNat_number {row : UInt32} (h : row.toNat + 1 < 2 ^ 32) :
    (row + 1).toNat = row.toNat + 1 := by
  rw [UInt32.toNat_add]
  exact Nat.mod_eq_of_lt h

/-! ## Looking row by row -/

/-- What is looked for under each of some keys is found once, if its key is one of them and none
stands twice. -/
theorem perm_flatMap_filter {α κ : Type} [DecidableEq κ] (key : α → κ) {keys : List κ}
    {items : List α} (hkeys : keys.Nodup) (hitems : ∀ x ∈ items, key x ∈ keys) :
    (keys.flatMap fun k => items.filter (key · = k)).Perm items := by
  induction keys generalizing items with
  | nil =>
    cases items with
    | nil => exact .nil
    | cons x items => exact absurd (hitems x List.mem_cons_self) List.not_mem_nil
  | cons k keys ih =>
    obtain ⟨hk, hkeys⟩ := List.nodup_cons.1 hkeys
    let others := items.filter fun x => !decide (key x = k)
    -- what is under another key is looked for among what is not under the first
    have hothers : (keys.flatMap fun k' => items.filter (key · = k')) =
        keys.flatMap fun k' => others.filter (key · = k') := by
      refine List.flatMap_congr fun k' hk' => ?_
      rw [List.filter_filter]
      refine List.filter_congr fun x _ => ?_
      by_cases hx : key x = k'
      · have hne : k' ≠ k := fun heq => hk (heq ▸ hk')
        simp [hx, hne]
      · simp [hx]
    have hperm : (keys.flatMap fun k' => others.filter (key · = k')).Perm others := by
      refine ih hkeys fun x hx => ?_
      obtain ⟨hx, hne⟩ := List.mem_filter.1 hx
      exact (List.mem_cons.1 (hitems x hx)).resolve_left (by simpa using hne)
    rw [List.flatMap_cons, hothers]
    exact (hperm.append_left _).trans (List.filter_append_perm _ items)

/-- The markers of a pane are those that start on its rows, each once. -/
theorem perm_markersOn {p : Pane} {rows : List UInt32} (hrows : rows.Nodup)
    (hmem : ∀ row, row ∈ rows ↔ p.OnRow row) : (rows.flatMap p.markersOn).Perm p.markers :=
  perm_flatMap_filter (fun m : Marker => m.range.start.row) hrows fun m hm =>
    (hmem _).2 (.inl ⟨m, hm, rfl⟩)

/-- The annotations of a pane are those on its rows, each once. -/
theorem perm_notesOn {p : Pane} {rows : List UInt32} (hrows : rows.Nodup)
    (hmem : ∀ row, row ∈ rows ↔ p.OnRow row) : (rows.flatMap p.notesOn).Perm p.annotations :=
  perm_flatMap_filter (fun a : Annotation => a.position.row) hrows fun a ha =>
    (hmem _).2 (.inr ⟨a, ha, rfl⟩)

end Report

end CompileSession
