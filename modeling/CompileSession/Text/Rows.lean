/-!
# Tables of characters

A table is an array of rows, each of which speaks of the characters between two numbers; the rows
ascend and do not overlap. `row?` finds the row of a character by halving the table.
-/

namespace CompileSession.Text

variable {α : Type}

/-- The row of `rows` whose `bounds` enclose `n`, among those from place `low` up to, not
including, `high`. At most `more` rows are looked at. -/
def rowBetween (bounds : α → Nat × Nat) (rows : Array α) (n : Nat) :
    (more : Nat) → (low high : Nat) → Option α
  | 0, _, _ => none
  | more + 1, low, high =>
    if low < high then
      let middle := (low + high) / 2
      match rows[middle]? with
      | none => none
      | some row =>
        if n < (bounds row).1 then rowBetween bounds rows n more low middle
        else if (bounds row).2 < n then rowBetween bounds rows n more (middle + 1) high
        else some row
    else none

/-- The row of `rows` whose `bounds` enclose `n`. -/
def row? (bounds : α → Nat × Nat) (rows : Array α) (n : Nat) : Option α :=
  rowBetween bounds rows n rows.size 0 rows.size

/-- Whether `n` lies in one of the closed intervals of `ranges`. -/
def within (ranges : Array (Nat × Nat)) (n : Nat) : Bool := (row? id ranges n).isSome

/-- A row that is found encloses the number looked for. -/
theorem bounds_of_row? {bounds : α → Nat × Nat} {rows : Array α} {n : Nat} {row : α}
    (h : row? bounds rows n = some row) : (bounds row).1 ≤ n ∧ n ≤ (bounds row).2 := by
  suffices ∀ more low high, rowBetween bounds rows n more low high = some row →
      (bounds row).1 ≤ n ∧ n ≤ (bounds row).2 from this _ _ _ h
  intro more
  induction more with
  | zero => intro _ _ h; simp [rowBetween] at h
  | succ more ih =>
    intro low high h
    unfold rowBetween at h
    split at h
    · dsimp only at h
      split at h
      · simp at h
      · split at h
        · exact ih _ _ h
        · split at h
          · exact ih _ _ h
          · cases h
            omega
    · simp at h

end CompileSession.Text
