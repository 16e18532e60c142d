/-!
# Texts in pieces

Cutting a text at every occurrence of a character. There is always one piece more than there are
cuts, so the empty text is one empty piece, and putting the character back between the pieces
gives the text.
-/

namespace CompileSession.Text

/-- `cs` cut at every `sep`; `seen` is the piece begun, last character first. -/
def piecesFrom (sep : Char) (seen : List Char) : List Char → List (List Char)
  | [] => [seen.reverse]
  | c :: rest =>
    if c = sep then seen.reverse :: piecesFrom sep [] rest else piecesFrom sep (c :: seen) rest

/-- `cs` cut at every `sep`. -/
def pieces (sep : Char) (cs : List Char) : List (List Char) := piecesFrom sep [] cs

theorem piecesFrom_ne_nil (sep : Char) (seen cs : List Char) : piecesFrom sep seen cs ≠ [] := by
  induction cs generalizing seen with
  | nil => simp [piecesFrom]
  | cons c rest ih =>
    unfold piecesFrom
    split
    · simp
    · exact ih _

theorem intercalate_piecesFrom (sep : Char) (seen cs : List Char) :
    [sep].intercalate (piecesFrom sep seen cs) = seen.reverse ++ cs := by
  induction cs generalizing seen with
  | nil => simp [piecesFrom, List.intercalate]
  | cons c rest ih =>
    unfold piecesFrom
    split
    · rename_i h
      subst h
      have h' := ih []
      obtain ⟨p, ps, hp⟩ : ∃ p ps, piecesFrom c [] rest = p :: ps :=
        List.exists_cons_of_ne_nil (piecesFrom_ne_nil c [] rest)
      rw [hp] at h' ⊢
      simp only [List.intercalate, List.intersperse, List.flatten_cons] at h' ⊢
      simp_all
    · rw [ih]
      simp

/-- Nothing is lost by cutting. -/
theorem intercalate_pieces (sep : Char) (cs : List Char) :
    [sep].intercalate (pieces sep cs) = cs :=
  intercalate_piecesFrom sep [] cs

theorem piecesFrom_append {sep : Char} {p : List Char} (h : sep ∉ p) (seen rest : List Char) :
    piecesFrom sep seen (p ++ rest) = piecesFrom sep (p.reverse ++ seen) rest := by
  induction p generalizing seen with
  | nil => rfl
  | cons c p ih =>
    have hc : c ≠ sep := (List.ne_of_not_mem_cons h).symm
    rw [List.cons_append, piecesFrom, if_neg hc, ih (List.not_mem_of_not_mem_cons h),
      List.reverse_cons,
      List.append_assoc, List.singleton_append]

/-- What is never cut is one piece. -/
theorem pieces_of_not_mem {sep : Char} {p : List Char} (h : sep ∉ p) : pieces sep p = [p] := by
  have hp := piecesFrom_append h [] []
  rw [List.append_nil, List.append_nil] at hp
  unfold pieces
  rw [hp, piecesFrom, List.reverse_reverse]

/-- The first piece ends at the first cut. -/
theorem pieces_append {sep : Char} {p : List Char} (h : sep ∉ p) (rest : List Char) :
    pieces sep (p ++ sep :: rest) = p :: pieces sep rest := by
  unfold pieces
  rw [piecesFrom_append h, piecesFrom, if_pos rfl, List.append_nil, List.reverse_reverse]

end CompileSession.Text
