import CompileSession.Text.Blank
import CompileSession.Text.Decimal
import Mathlib.Algebra.Group.Int.Defs

/-!
# Whole numbers in a text

Which texts denote a whole number, written down without the reader: ASCII digits after a sign or
none. The reader of 64-bit numbers accepts those that denote one in range. Blanks around a number
are told from it, since no digit and no sign is one.

Results:
1. `int64?_eq_some_iff`: what the reader accepts.
2. `eq_blanks_trim`, `trim_blanks`: what trimming takes off.
-/

namespace CompileSession

namespace Text

/-- A run of ASCII digits, after a sign or none, and the whole number that it denotes. -/
inductive Denotes : List Char → Int → Prop where
  | bare {ds : List Char} : ds ≠ [] → (∀ c ∈ ds, c.isDigit) → Denotes ds (Nat.ofDigitChars 10 ds 0)
  | plus {ds : List Char} : ds ≠ [] → (∀ c ∈ ds, c.isDigit) →
      Denotes ('+' :: ds) (Nat.ofDigitChars 10 ds 0)
  | minus {ds : List Char} : ds ≠ [] → (∀ c ∈ ds, c.isDigit) →
      Denotes ('-' :: ds) (-(Nat.ofDigitChars 10 ds 0))

theorem isDigit_eq (c : Char) : isDigit c = c.isDigit := rfl

theorem digitsFrom?_eq_some_iff {acc n : Nat} {cs : List Char} :
    digitsFrom? acc cs = some n ↔ (∀ c ∈ cs, c.isDigit) ∧ Nat.ofDigitChars 10 cs acc = n := by
  induction cs generalizing acc with
  | nil => simp [digitsFrom?]
  | cons c cs ih =>
    rw [digitsFrom?, digit?, isDigit_eq, List.forall_mem_cons, Nat.ofDigitChars_cons]
    by_cases hc : c.isDigit
    · simp [hc, ih]
    · simp [hc]

theorem natural?_eq_some_iff {n : Nat} {cs : List Char} :
    natural? cs = some n ↔
      cs ≠ [] ∧ (∀ c ∈ cs, c.isDigit) ∧ Nat.ofDigitChars 10 cs 0 = n := by
  cases cs with
  | nil => simp [natural?]
  | cons c cs => simp [natural?, digitsFrom?_eq_some_iff]

theorem signed?_eq_some_iff {i : Int} {cs : List Char} : signed? cs = some i ↔ Denotes cs i := by
  constructor
  · intro h
    unfold signed? at h
    split at h <;> obtain ⟨n, hn, rfl⟩ := Option.map_eq_some_iff.1 h <;>
      obtain ⟨hne, hd, rfl⟩ := natural?_eq_some_iff.1 hn
    · exact .plus hne hd
    · exact .minus hne hd
    · exact .bare hne hd
  · have hread {ds : List Char} (hne : ds ≠ []) (hd : ∀ c ∈ ds, c.isDigit) :=
      natural?_eq_some_iff.2 ⟨hne, hd, rfl⟩
    rintro (⟨hne, hd⟩ | ⟨hne, hd⟩ | ⟨hne, hd⟩)
    · -- the first character is a digit, so it is no sign
      unfold signed?
      split
      · exact absurd (hd '+' List.mem_cons_self) (by decide)
      · exact absurd (hd '-' List.mem_cons_self) (by decide)
      · rw [hread hne hd]
        rfl
    · rw [signed?, hread hne hd]
      rfl
    · rw [signed?, hread hne hd]
      rfl

/-- The whole numbers of 64 signed bits. -/
def Int64 (i : Int) : Prop := -2 ^ 63 ≤ i ∧ i < 2 ^ 63

theorem fitsInt64_iff {i : Int} : fitsInt64 i = true ↔ Int64 i := by
  rw [fitsInt64, Bool.and_eq_true, decide_eq_true_iff, decide_eq_true_iff, Int64, minInt64,
    maxInt64]
  omega

theorem int64?_eq_some_iff {i : Int} {cs : List Char} :
    int64? cs = some i ↔ Denotes cs i ∧ Int64 i := by
  rw [int64?, Option.filter_eq_some_iff, signed?_eq_some_iff, fitsInt64_iff]

/-- What is trimmed off are blanks. -/
theorem eq_blanks_trim (cs : List Char) :
    ∃ lead tail, cs = lead ++ (trim cs ++ tail) ∧ (∀ c ∈ lead, isBlank c) ∧
      ∀ c ∈ tail, isBlank c := by
  have hblank (ds : List Char) : ∀ c ∈ ds.takeWhile isBlank, isBlank c := fun c hc =>
    List.all_eq_true.1 List.all_takeWhile c hc
  let rest := cs.dropWhile isBlank
  refine ⟨cs.takeWhile isBlank, (rest.reverse.takeWhile isBlank).reverse, ?_, hblank cs, ?_⟩
  · rw [trim, trimEnd, ← List.reverse_append, List.takeWhile_append_dropWhile, List.reverse_reverse,
      List.takeWhile_append_dropWhile]
  · exact fun c hc => hblank _ c (List.mem_reverse.1 hc)

/-- Blanks around characters that are none are all trimmed off. -/
theorem trim_blanks {lead cs tail : List Char} (hlead : ∀ c ∈ lead, isBlank c)
    (htail : ∀ c ∈ tail, isBlank c) (hcs : ∀ c ∈ cs, isBlank c = false) :
    trim (lead ++ (cs ++ tail)) = cs := by
  have hkeep {ds : List Char} (hds : ∀ c ∈ ds, isBlank c = false) : ds.dropWhile isBlank = ds := by
    cases ds with
    | nil => rfl
    | cons c ds => exact List.dropWhile_cons_of_neg (by simp [hds c List.mem_cons_self])
  rw [trim, List.dropWhile_append_of_pos hlead]
  cases cs with
  | nil => exact trim_eq_nil_of_all htail
  | cons c cs =>
    rw [List.cons_append, List.dropWhile_cons_of_neg (by simp [hcs c List.mem_cons_self]),
      ← List.cons_append, trimEnd, List.reverse_append,
      List.dropWhile_append_of_pos fun d hd => htail d (List.mem_reverse.1 hd),
      hkeep fun d hd => hcs d (List.mem_reverse.1 hd), List.reverse_reverse]

theorem Denotes.not_blank {cs : List Char} {i : Int} (h : Denotes cs i) :
    ∀ c ∈ cs, isBlank c = false := by
  have hdigit {c : Char} (hc : c.isDigit) : isBlank c = false := by
    have all : ∀ n : Fin 10, inRanges blankRanges (48 + n) = false := by decide
    have hrange : 48 ≤ c.toNat ∧ c.toNat ≤ 57 := Char.isDigit_iff_toNat.1 hc
    have hn := all ⟨c.toNat - 48, by omega⟩
    rwa [Nat.add_sub_cancel' hrange.1] at hn
  cases h with
  | bare _ hd => exact fun c hc => hdigit (hd c hc)
  | plus _ hd | minus _ hd =>
    refine List.forall_mem_cons.2 ⟨by decide, fun c hc => hdigit (hd c hc)⟩

theorem Denotes.ne_nil {cs : List Char} {i : Int} (h : Denotes cs i) : cs ≠ [] := by
  cases h with
  | bare hne _ => exact hne
  | plus | minus => exact List.cons_ne_nil _ _

end Text

end CompileSession
