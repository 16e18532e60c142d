import CompileSession.Json.Scan
import CompileSession.Proofs.Except
import CompileSession.Proofs.Json.Grammar
import Mathlib.Algebra.Group.Nat.Defs

/-!
# Numerals read off a text

Of a numeral the reader takes as much as it can, so it leaves what the grammar leaves if that
cannot go on a numeral. A whole number of 64 bits in plain decimal form is read as itself.

Results:
1. `Scan.numeral_of_unsigned`, `Scan.unsigned_of_numeral`: the spelling of a numeral.
2. `Scan.number_toDigits`: the value of plain digits.
-/

namespace CompileSession.Json

open Grammar

namespace Scan

/-! ## What may follow -/

/-- Nothing follows that would go on a numeral: the text ends, or goes on with white space, a comma
or a bracket. -/
def Stops (s : List Char) : Prop := ∀ c ∈ s.head?, c ∈ [' ', '\t', '\n', '\r', ',', ']', '}']

/-- No digit stands in front. -/
def NoDigit (s : List Char) : Prop := ∀ c ∈ s.head?, c.isDigit = false

theorem digits_append (atEnd : Problem) {ds rest : List Char} (hds : IsDigits ds)
    (hrest : NoDigit rest) : digits atEnd (ds ++ rest) = .ok (ds, rest) := by
  obtain ⟨hne, hall⟩ := hds
  have hall : ∀ c ∈ ds, Text.isDigit c = true := hall
  have htake : rest.takeWhile Text.isDigit = [] ∧ rest.dropWhile Text.isDigit = rest := by
    cases rest with
    | nil => exact ⟨rfl, rfl⟩
    | cons c rest =>
      have hc : Text.isDigit c = false := hrest c rfl
      simp [hc]
  have hfirst : (ds ++ rest).takeWhile Text.isDigit = ds := by
    rw [List.takeWhile_append_of_pos hall, htake.1, List.append_nil]
  have hafter : (ds ++ rest).dropWhile Text.isDigit = rest := by
    rw [List.dropWhile_append_of_pos hall, htake.2]
  cases ds with
  | nil => exact absurd rfl hne
  | cons d ds =>
    have hd : Text.isDigit d = true := hall d List.mem_cons_self
    rw [List.cons_append] at hfirst hafter ⊢
    simp only [digits, hd, if_true, hfirst, hafter]

theorem digits_of_eq_ok {atEnd : Problem} {s ds rest : List Char}
    (h : digits atEnd s = .ok (ds, rest)) : IsDigits ds ∧ s = ds ++ rest := by
  unfold digits at h
  split at h
  · cases h
  · split at h
    · rename_i hc
      cases h
      refine ⟨⟨?_, fun d hd => List.all_eq_true.1 List.all_takeWhile d hd⟩,
        (List.takeWhile_append_dropWhile).symm⟩
      rw [List.takeWhile_cons_of_pos hc]
      exact List.cons_ne_nil _ _
    · cases h

theorem wholeDigits_append (atEnd : Problem) {ds rest : List Char} (hds : IsWhole ds)
    (hrest : NoDigit rest) : wholeDigits atEnd (ds ++ rest) = .ok (ds, rest) := by
  obtain rfl | ⟨hzero, hds⟩ := hds
  · cases rest with
    | nil => rfl
    | cons c rest =>
      have hc : Text.isDigit c = false := hrest c rfl
      show wholeDigits atEnd ('0' :: c :: rest) = _
      simp [wholeDigits, hc]
  · unfold wholeDigits
    split
    · rename_i heq
      cases ds with
      | nil => exact absurd rfl hds.1
      | cons d ds =>
        rw [List.cons_append, List.cons.injEq] at heq
        exact absurd (congrArg some heq.1) hzero
    · exact digits_append atEnd hds hrest

theorem wholeDigits_of_eq_ok {atEnd : Problem} {s ds rest : List Char}
    (h : wholeDigits atEnd s = .ok (ds, rest)) : IsWhole ds ∧ s = ds ++ rest := by
  unfold wholeDigits at h
  split at h
  · split at h
    · cases h
    · cases h
      exact ⟨.inl rfl, rfl⟩
  · rename_i hlone
    obtain ⟨hds, rfl⟩ := digits_of_eq_ok h
    refine ⟨?_, rfl⟩
    cases ds with
    | nil => exact absurd rfl hds.1
    | cons d ds =>
      by_cases hd : d = '0'
      · subst hd
        cases ds with
        | nil => exact .inl rfl
        | cons e ds => exact absurd rfl (hlone e (ds ++ rest))
      · exact .inr ⟨fun heq => hd (Option.some.inj heq), hds⟩

theorem fractionDigits_none (atEnd : Problem) {s : List Char} (h : s.head? ≠ some '.') :
    fractionDigits atEnd s = .ok ([], s) := by
  unfold fractionDigits
  split
  · exact absurd rfl h
  · rfl

theorem fractionDigits_append (atEnd : Problem) {s t : List Char} (h : Fraction s t)
    (ht : NoDigit t) (hpoint : t.head? ≠ some '.') :
    ∃ ds, fractionDigits atEnd s = .ok (ds, t) := by
  cases h with
  | none => exact ⟨[], fractionDigits_none atEnd hpoint⟩
  | some hds => exact ⟨_, digits_append atEnd hds ht⟩

theorem fractionDigits_of_eq_ok {atEnd : Problem} {s ds t : List Char}
    (h : fractionDigits atEnd s = .ok (ds, t)) : Fraction s t := by
  unfold fractionDigits at h
  split at h
  · obtain ⟨hds, rfl⟩ := digits_of_eq_ok h
    exact .some hds
  · cases h
    exact .none

theorem exponentDigits_none (atEnd : Problem) {s : List Char}
    (h : ∀ c ∈ s.head?, c ≠ 'e' ∧ c ≠ 'E') : exponentDigits atEnd s = .ok (none, s) := by
  cases s with
  | nil => rfl
  | cons c s => exact if_neg (not_or.2 (h c rfl))

theorem exponentDigits_append (atEnd : Problem) {s rest : List Char} (h : Exponent s rest)
    (hrest : NoDigit rest) (hletter : ∀ c ∈ rest.head?, c ≠ 'e' ∧ c ≠ 'E') :
    ∃ x, exponentDigits atEnd s = .ok (x, rest) := by
  cases h with
  | none => exact ⟨none, exponentDigits_none atEnd hletter⟩
  | some hc hsign hds =>
    rename_i c sign ds
    have hc : c = 'e' ∨ c = 'E' := by simpa using hc
    have hread := digits_append atEnd hds hrest
    have hhead {d : Char} {t : List Char} (h : ds ++ rest = d :: t) : d.isDigit := by
      cases ds with
      | nil => exact absurd rfl hds.1
      | cons e ds =>
        cases h
        exact hds.2 d List.mem_cons_self
    simp only [List.mem_cons, List.not_mem_nil, or_false] at hsign
    rcases hsign with rfl | rfl | rfl
    · simp only [exponentDigits, if_pos hc, List.nil_append]
      split
      · exact absurd (hhead ‹_›) (by decide)
      · exact absurd (hhead ‹_›) (by decide)
      · rw [hread]
        exact ⟨_, rfl⟩
    · simp only [exponentDigits, if_pos hc, List.cons_append, List.nil_append, hread]
      exact ⟨_, rfl⟩
    · simp only [exponentDigits, if_pos hc, List.cons_append, List.nil_append, hread]
      exact ⟨_, rfl⟩

theorem exponentDigits_of_eq_ok {atEnd : Problem} {s rest : List Char}
    {x : Option (Bool × List Char)} (h : exponentDigits atEnd s = .ok (x, rest)) :
    Exponent s rest := by
  unfold exponentDigits at h
  split at h
  · split at h
    · rename_i c _ hc
      have hc : c ∈ ['e', 'E'] := by simpa using hc
      split at h
      all_goals
        obtain ⟨⟨ds, t⟩, hread, heq⟩ := map_eq_ok_iff.1 h
        cases heq
        obtain ⟨hds, rfl⟩ := digits_of_eq_ok hread
      · exact .some hc (show ['+'] ∈ _ by decide) hds
      · exact .some hc (show ['-'] ∈ _ by decide) hds
      · exact .some hc (show [] ∈ _ by decide) hds
    · cases h
      exact .none
  · cases h
    exact .none

theorem Stops.head {s : List Char} (h : Stops s) :
    ∀ c ∈ s.head?, c.isDigit = false ∧ c ≠ '.' ∧ c ≠ 'e' ∧ c ≠ 'E' := by
  intro c hc
  have hc := h c hc
  simp only [List.mem_cons, List.not_mem_nil, or_false] at hc
  rcases hc with rfl | rfl | rfl | rfl | rfl | rfl | rfl <;> decide

/-- A numeral is read up to where it cannot go on. -/
theorem numeral_of_unsigned (atEnd : Problem) (negative : Bool) {s rest : List Char}
    (h : Unsigned s rest) (hrest : Stops rest) :
    ∃ n, numeral atEnd negative s = .ok (n, rest) := by
  have hend := hrest.head
  obtain ⟨hwhole, hfraction, hexponent⟩ := h
  rename_i ds s t
  -- what can follow the digits before the point is no digit, and so on
  have ht : ∀ c ∈ t.head?, c.isDigit = false ∧ c ≠ '.' := by
    intro c hc
    cases hexponent with
    | none => exact ⟨(hend c hc).1, (hend c hc).2.1⟩
    | some he _ _ =>
      cases hc
      simp only [List.mem_cons, List.not_mem_nil, or_false] at he
      rcases he with rfl | rfl <;> decide
  have hs : NoDigit s := by
    intro c hc
    cases hfraction with
    | none => exact (ht c hc).1
    | some _ =>
      cases hc
      rfl
  obtain ⟨x, hx⟩ := exponentDigits_append atEnd hexponent (fun c hc => (hend c hc).1)
    fun c hc => (hend c hc).2.2
  obtain ⟨fs, hfs⟩ := fractionDigits_append atEnd hfraction (fun c hc => (ht c hc).1)
    fun hpoint => (ht '.' hpoint).2 rfl
  unfold numeral
  simp only [wholeDigits_append atEnd hwhole hs, hfs, hx]
  exact ⟨_, rfl⟩

theorem unsigned_of_numeral {atEnd : Problem} {negative : Bool} {s rest : List Char} {n : Numeral}
    (h : numeral atEnd negative s = .ok (n, rest)) : Unsigned s rest := by
  unfold numeral at h
  split at h
  · cases h
  · rename_i hwhole
    obtain ⟨hds, rfl⟩ := wholeDigits_of_eq_ok hwhole
    split at h
    · cases h
    · rename_i hfraction
      split at h
      · cases h
      · rename_i hexponent
        cases h
        exact .of hds (fractionDigits_of_eq_ok hfraction) (exponentDigits_of_eq_ok hexponent)

/-- A number is what a numeral stands for, so it leaves what the numeral leaves. -/
theorem numeral_of_number {negative : Bool} {s rest : List Char} {n : Number}
    (h : number negative s = .ok (n, rest)) :
    ∃ spelt, numeral .endInValue negative s = .ok (spelt, rest) := by
  unfold number at h
  split at h
  · cases h
  · rename_i spelt t hspelt
    obtain ⟨n', -, heq⟩ := map_eq_ok_iff.1 h
    cases heq
    exact ⟨spelt, hspelt⟩

/-! ## Whole numbers in plain form -/

theorem head?_toDigits {n : Nat} (h : 0 < n) : (Nat.toDigits 10 n).head? ≠ some '0' := by
  induction n using Nat.strongRecOn with
  | ind n ih =>
    by_cases hn : n < 10
    · rw [Nat.toDigits_of_lt_base hn]
      simp only [List.head?_cons, ne_eq, Option.some.injEq, Nat.digitChar_eq_zero]
      omega
    · rw [Nat.toDigits_of_base_le (by decide) (Nat.not_lt.1 hn), List.head?_append]
      have hhead := ih (n / 10) (by omega) (by omega)
      cases hdigits : (Nat.toDigits 10 (n / 10)).head? with
      | none => exact absurd (List.head?_eq_none_iff.1 hdigits) Nat.toDigits_ne_nil
      | some c =>
        rw [hdigits] at hhead
        exact hhead

theorem isWhole_toDigits (n : Nat) : IsWhole (Nat.toDigits 10 n) := by
  rcases Nat.eq_zero_or_pos n with rfl | hn
  · exact .inl rfl
  · refine .inr ⟨head?_toDigits hn, Nat.toDigits_ne_nil, fun c hc => ?_⟩
    exact Nat.isDigit_of_mem_toDigits (by decide) (by decide) hc

theorem le_ofDigitChars (ds : List Char) (acc : Nat) : acc ≤ Nat.ofDigitChars 10 ds acc := by
  induction ds generalizing acc with
  | nil => exact Nat.le_refl acc
  | cons c ds ih =>
    rw [Nat.ofDigitChars_cons]
    exact Nat.le_trans (by omega) (ih _)

/-- Digits that fit 64 bits are all taken. -/
theorem gatherWhole_of_le {acc : Nat} {ds : List Char}
    (h : Nat.ofDigitChars 10 ds acc ≤ Text.maxNat64) :
    gatherWhole acc ds = (Nat.ofDigitChars 10 ds acc, 0) := by
  induction ds generalizing acc with
  | nil => rfl
  | cons c ds ih =>
    rw [Nat.ofDigitChars_cons] at h ⊢
    have hnext : ¬ Text.maxNat64 < 10 * acc + digitValue c :=
      Nat.not_lt.2 (Nat.le_trans (le_ofDigitChars ds _) h)
    rw [gatherWhole, if_neg hnext]
    exact ih h

theorem number_toDigits {negative : Bool} {n : Nat} (hn : n ≤ Text.maxNat64) {rest : List Char}
    (hrest : Stops rest) : number negative (Nat.toDigits 10 n ++ rest) =
      (wholeNumber negative n rest).map fun value => (value, rest) := by
  have hnumeral : numeral .endInValue negative (Nat.toDigits 10 n ++ rest) =
      .ok (⟨negative, Nat.toDigits 10 n, [], none⟩, rest) := by
    unfold numeral
    simp only [wholeDigits_append _ (isWhole_toDigits n) fun c hc => (hrest.head c hc).1,
      fractionDigits_none _ fun hpoint => (hrest.head '.' hpoint).2.1 rfl,
      exponentDigits_none _ fun c hc => (hrest.head c hc).2.2]
  have hgather : gatherWhole 0 (Nat.toDigits 10 n) = (n, 0) := by
    have hvalue : Nat.ofDigitChars 10 (Nat.toDigits 10 n) 0 = n := Nat.ofDigitChars_ten_toDigits
    rw [gatherWhole_of_le (by rw [hvalue]; exact hn), hvalue]
  unfold number
  simp only [hnumeral, Numeral.value, hgather, gatherFraction]
  rfl

end Scan

/-- A whole number in plain form is a run of digits, after a minus sign if it is negative. -/
theorem Grammar.Plain.cases {s rest : List Char} {n : Number} (h : Plain s n rest) :
    (∃ k : Nat, k < 2 ^ 64 ∧ n = .integer k ∧ s = Nat.toDigits 10 k ++ rest) ∨
      ∃ k : Nat, 0 < k ∧ k ≤ 2 ^ 63 ∧ n = .integer (-k) ∧
        s = '-' :: (Nat.toDigits 10 k ++ rest) := by
  obtain ⟨i, hlow, hhigh, rfl, rfl⟩ := h
  cases i with
  | ofNat k =>
    have hk : (k : Int) < 2 ^ 64 := hhigh
    refine .inl ⟨k, by omega, rfl, ?_⟩
    rw [Int.toString_eq_repr]
    show (Nat.repr k).toList ++ rest = _
    rw [Nat.toList_repr]
  | negSucc k =>
    refine .inr ⟨k + 1, Nat.succ_pos k, by omega, rfl, ?_⟩
    rw [Int.toString_eq_repr]
    show ("-" ++ Nat.repr (k + 1)).toList ++ rest = _
    rw [String.toList_append, Nat.toList_repr]
    rfl

theorem Grammar.ofNumerals_plain : OfNumerals Plain := by
  intro s n rest h
  have hunsigned (k : Nat) : Unsigned (Nat.toDigits 10 k ++ rest) rest :=
    .of (Scan.isWhole_toDigits k) .none .none
  obtain ⟨k, -, -, rfl⟩ | ⟨k, -, -, -, rfl⟩ := h.cases
  · exact .bare (hunsigned k)
  · exact .minus (hunsigned k)

end CompileSession.Json
