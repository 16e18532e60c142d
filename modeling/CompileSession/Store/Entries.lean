/-!
# Entries under names

A list of entries, at most one for each name. An entry that is put anew keeps its place, so the
order is that in which the names were first put. `lookup_put` says what is found after an entry was
put, and `map_fst_put` what becomes of the names.
-/

namespace CompileSession.Entries

variable {α : Type}

/-- The entries after `value` was put under `name`. -/
def put (name : String) (value : α) : List (String × α) → List (String × α)
  | [] => [(name, value)]
  | (other, old) :: rest =>
    if name = other then (name, value) :: rest else (other, old) :: put name value rest

/-- The name that was put holds its entry, and every other name what it held. -/
theorem lookup_put (name : String) (value : α) (entries : List (String × α)) (other : String) :
    (put name value entries).lookup other =
      if other = name then some value else entries.lookup other := by
  induction entries with
  | nil =>
    by_cases h : other = name
    · simp [put, h]
    · have hne : (other == name) = false := by simpa using h
      simp [put, List.lookup_cons, h, hne]
  | cons e rest ih =>
    obtain ⟨first, old⟩ := e
    unfold put
    split
    · rename_i hfirst
      subst hfirst
      by_cases h : other = name
      · simp [h]
      · have hne : (other == name) = false := by simpa using h
        simp [List.lookup_cons, h, hne]
    · rename_i hfirst
      by_cases h : other = first
      · subst h
        have hne : ¬other = name := fun heq => hfirst heq.symm
        simp [hne]
      · have hne : (other == first) = false := by simpa using h
        simpa [List.lookup_cons, hne] using ih

/-- A name that is new comes last; the others stay as they are. -/
theorem map_fst_put (name : String) (value : α) (entries : List (String × α)) :
    (put name value entries).map (·.1) =
      if name ∈ entries.map (·.1) then entries.map (·.1) else entries.map (·.1) ++ [name] := by
  induction entries with
  | nil => simp [put]
  | cons e rest ih =>
    obtain ⟨first, old⟩ := e
    unfold put
    split
    · rename_i h
      simp [h]
    · rename_i h
      rw [List.map_cons, ih]
      by_cases hmem : name ∈ rest.map (·.1)
      · rw [if_pos hmem, if_pos (by exact List.mem_cons_of_mem _ hmem), List.map_cons]
      · have hcons : name ∉ ((first, old) :: rest).map (·.1) := by
          rw [List.map_cons, List.mem_cons, not_or]
          exact ⟨h, hmem⟩
        rw [if_neg hmem, if_neg hcons, List.map_cons, List.cons_append]

end CompileSession.Entries
