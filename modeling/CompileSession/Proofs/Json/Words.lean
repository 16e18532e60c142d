import CompileSession.Json.Scan
import CompileSession.Proofs.Except
import CompileSession.Proofs.Json.Grammar
import CompileSession.Proofs.Json.Strings

/-!
# Words read off a text

White space, strings, literal words and colons are read exactly as the grammar says, whichever way
a string spells its characters.

Results:
1. `Scan.hex4_eq_ok_iff`, `Scan.escape_eq_ok_iff`: one character.
2. `Scan.stringRest_eq_ok_iff`: a string.
3. `Scan.word_eq_ok_iff`, `Scan.colon_eq_ok_iff`: the other words.
-/

namespace CompileSession.Json

open Grammar

/-! ## White space -/

theorem isSpace_iff {c : Char} : Scan.isSpace c = true ↔ c ∈ [' ', '\t', '\n', '\r'] := by
  simp [Scan.isSpace, or_assoc]

namespace Grammar

theorem Space.refl (s : List Char) : Space s s := ⟨[], nofun, rfl⟩

theorem Space.skipSpace {s rest : List Char} (h : Space s rest) :
    Scan.skipSpace s = Scan.skipSpace rest := by
  obtain ⟨blanks, hblanks, rfl⟩ := h
  exact List.dropWhile_append_of_pos fun c hc => isSpace_iff.2 (hblanks c hc)

theorem Space.skipSpace_cons {s rest : List Char} {c : Char} (h : Space s (c :: rest))
    (hc : Scan.isSpace c = false) : Scan.skipSpace s = c :: rest := by
  rw [h.skipSpace]
  exact List.dropWhile_cons_of_neg (by simp [hc])

theorem space_skipSpace (s : List Char) : Space s (Scan.skipSpace s) :=
  ⟨s.takeWhile Scan.isSpace,
    fun c hc => isSpace_iff.1 (List.all_eq_true.1 List.all_takeWhile c hc),
    (List.takeWhile_append_dropWhile).symm⟩

end Grammar

/-! ## Strings -/

theorem hexDigit?_eq_some_iff {c : Char} {n : Nat} :
    Text.hexDigit? c = some n ↔ Hex c n := by
  constructor
  · intro h
    have all : ∀ k : Fin 128, (Text.hexDigit? (Char.ofNat k)).all fun n =>
        n < 16 ∧ (Char.ofNat k = Text.hexDigit n ∨ Char.ofNat k = Text.hexCapital n) := by
      decide +kernel
    have hascii : c.toNat < 128 := by
      unfold Text.hexDigit? at h
      split at h
      · exact Nat.lt_of_le_of_lt (show c.toNat ≤ 57 from And.right ‹_›) (by decide)
      · split at h
        · exact Nat.lt_of_le_of_lt (show c.toNat ≤ 102 from And.right ‹_›) (by decide)
        · split at h
          · exact Nat.lt_of_le_of_lt (show c.toNat ≤ 70 from And.right ‹_›) (by decide)
          · cases h
    have hc := all ⟨c.toNat, hascii⟩
    rw [Char.ofNat_toNat, h] at hc
    simpa [Hex] using hc
  · rintro ⟨hn, rfl | rfl⟩
    · exact Text.hexDigit?_hexDigit hn
    · exact Text.hexDigit?_hexCapital hn

namespace Scan

theorem hex4_eq_ok_iff {s rest : List Char} {n : Nat} : hex4 s = .ok (n, rest) ↔ Hex4 s n rest := by
  constructor
  · intro h
    unfold hex4 at h
    split at h
    · cases h
    · split at h
      · split at h
        · rename_i hdigits
          cases h
          simp only [hex4?, Option.bind_eq_bind, Option.bind_eq_some_iff, Option.pure_def,
            Option.some.injEq, hexDigit?_eq_some_iff] at hdigits
          obtain ⟨h, ha, i, hb, j, hc, k, hd, rfl⟩ := hdigits
          exact .of ha hb hc hd
        · cases h
      · cases h
  · rintro ⟨ha, hb, hc, hd⟩
    rename_i a b c d h i j k
    have hroom : ¬ Text.octetCount [a, b, c, d] < 4 :=
      Nat.not_lt.2 (StringLemmas.length_le_octetCount [a, b, c, d])
    have hdigits : hex4? a b c d = some (4096 * h + 256 * i + 16 * j + k) := by
      simp [hex4?, hexDigit?_eq_some_iff.2 ha, hexDigit?_eq_some_iff.2 hb,
        hexDigit?_eq_some_iff.2 hc, hexDigit?_eq_some_iff.2 hd]
    unfold hex4
    rw [if_neg (by exact hroom)]
    simp only [hdigits]

theorem shortEscape?_eq_some_iff {e c : Char} :
    shortEscape? e = some c ↔ (e, c) ∈ shortEscapes := by
  unfold shortEscape? shortEscapes
  constructor
  · intro h
    repeat' split at h
    all_goals first | (cases h; done) | (subst_vars; cases h; decide)
  · intro h
    simp only [List.mem_cons, Prod.mk.injEq, List.not_mem_nil, or_false] at h
    rcases h with ⟨rfl, rfl⟩ | ⟨rfl, rfl⟩ | ⟨rfl, rfl⟩ | ⟨rfl, rfl⟩ | ⟨rfl, rfl⟩ | ⟨rfl, rfl⟩ |
      ⟨rfl, rfl⟩ | ⟨rfl, rfl⟩ <;> rfl

theorem isHighSurrogate_iff {n : Nat} : isHighSurrogate n = true ↔ 0xd800 ≤ n ∧ n ≤ 0xdbff := by
  simp [isHighSurrogate]

theorem isLowSurrogate_iff {n : Nat} : isLowSurrogate n = true ↔ 0xdc00 ≤ n ∧ n ≤ 0xdfff := by
  simp [isLowSurrogate]

theorem toNat_ofNat {n : Nat} (h : n.isValidChar) : (Char.ofNat n).toNat = n := by
  rw [Char.ofNat, dif_pos h]
  rfl

/-- The character of a surrogate pair has the two halves of the pair. -/
theorem pair_iff {high low : Nat} (hhigh : isHighSurrogate high) (hlow : isLowSurrogate low)
    {c : Char} :
    Char.ofNat (0x10000 + 0x400 * (high - 0xd800) + (low - 0xdc00)) = c ↔
      0x10000 ≤ c.toNat ∧ high = 0xd800 + (c.toNat - 0x10000) / 0x400 ∧
        low = 0xdc00 + (c.toNat - 0x10000) % 0x400 := by
  rw [isHighSurrogate_iff] at hhigh
  rw [isLowSurrogate_iff] at hlow
  have hvalid : (0x10000 + 0x400 * (high - 0xd800) + (low - 0xdc00)).isValidChar := by
    right
    omega
  constructor
  · rintro rfl
    rw [toNat_ofNat hvalid]
    omega
  · rintro ⟨hc, hh, hl⟩
    have hsum : 0x10000 + 0x400 * (high - 0xd800) + (low - 0xdc00) = c.toNat := by omega
    rw [hsum, Char.ofNat_toNat]

theorem lt_of_hex4 {s rest : List Char} {n : Nat} (h : Hex4 s n rest) : n < 0x10000 := by
  cases h with
  | of ha hb hc hd =>
    have := ha.1
    have := hb.1
    have := hc.1
    have := hd.1
    omega

theorem not_surrogate (c : Char) :
    isLowSurrogate c.toNat = false ∧ isHighSurrogate c.toNat = false := by
  have hvalid : c.toNat.isValidChar := c.valid
  simp only [isLowSurrogate, isHighSurrogate]
  simp
  omega

theorem secondHalf_eq_ok_iff {high : Nat} (hhigh : isHighSurrogate high) {s rest : List Char}
    {c : Char} : secondHalf high s = .ok (c, rest) ↔ 0x10000 ≤ c.toNat ∧
      high = 0xd800 + (c.toNat - 0x10000) / 0x400 ∧ ∃ t, s = '\\' :: 'u' :: t ∧
        Hex4 t (0xdc00 + (c.toNat - 0x10000) % 0x400) rest := by
  constructor
  · intro h
    unfold secondHalf at h
    split at h
    · cases h
    · cases h
    · rename_i t
      split at h
      · cases h
      · rename_i low rest' hlow
        split at h
        · rename_i hsurrogate
          simp only [Except.ok.injEq, Prod.mk.injEq] at h
          obtain ⟨hchar, rfl⟩ := h
          obtain ⟨hc, hh, hl⟩ := (pair_iff hhigh hsurrogate).1 hchar
          refine ⟨hc, hh, t, rfl, ?_⟩
          rw [← hl]
          exact hex4_eq_ok_iff.1 hlow
        · cases h
    · cases h
    · cases h
  · rintro ⟨hc, hh, t, rfl, ht⟩
    have hsurrogate : isLowSurrogate (0xdc00 + (c.toNat - 0x10000) % 0x400) = true := by
      rw [isLowSurrogate_iff]
      omega
    have hpair := (pair_iff hhigh hsurrogate).2 ⟨hc, hh, rfl⟩
    unfold secondHalf
    simp only [hex4_eq_ok_iff.2 ht, hsurrogate, if_true, hpair]

/-- An escape stands for one character. -/
theorem escape_eq_ok_iff {s rest : List Char} {c : Char} :
    escape s = .ok (c, rest) ↔ Glyph ('\\' :: s) c rest := by
  constructor
  · intro h
    unfold escape at h
    split at h
    · cases h
    · rename_i e s
      split at h
      · rename_i hu
        subst hu
        split at h
        · cases h
        · rename_i n t hn
          have hn := hex4_eq_ok_iff.1 hn
          split at h
          · cases h
          · rename_i hlow
            split at h
            · rename_i hhigh
              obtain ⟨hc, rfl, u, rfl, hu⟩ := (secondHalf_eq_ok_iff hhigh).1 h
              exact .pair hc hn hu
            · rename_i hhigh
              cases h
              -- what is no surrogate is the number of a character
              have hvalid : n.isValidChar := by
                have := lt_of_hex4 hn
                rw [isLowSurrogate_iff] at hlow
                rw [isHighSurrogate_iff] at hhigh
                simp only [Nat.isValidChar]
                omega
              refine .code ?_
              rw [toNat_ofNat hvalid]
              exact hn
      · split at h
        · rename_i e' he
          cases h
          exact .short (shortEscape?_eq_some_iff.1 he)
        · cases h
  · intro h
    cases h with
    | raw _ _ hslash => exact absurd rfl hslash
    | short he =>
      rename_i e
      have hu : e ≠ 'u' := by
        rintro rfl
        simp [shortEscapes] at he
      unfold escape
      simp only [if_neg hu, shortEscape?_eq_some_iff.2 he]
    | code hn =>
      unfold escape
      simp only [if_true, hex4_eq_ok_iff.2 hn, (not_surrogate c).1, (not_surrogate c).2,
        Bool.false_eq_true, if_false, Char.ofNat_toNat]
    | pair hc hh hl =>
      have hmax : c.toNat < 0x110000 := by
        have hvalid : c.toNat.isValidChar := c.valid
        simp only [Nat.isValidChar] at hvalid
        omega
      have hhigh : isHighSurrogate (0xd800 + (c.toNat - 0x10000) / 0x400) = true := by
        rw [isHighSurrogate_iff]
        omega
      have hlow : isLowSurrogate (0xd800 + (c.toNat - 0x10000) / 0x400) = false := by
        rw [Bool.eq_false_iff, ne_eq, isLowSurrogate_iff]
        omega
      have hsecond := (secondHalf_eq_ok_iff hhigh).2 ⟨hc, rfl, _, rfl, hl⟩
      unfold escape
      simp only [if_true, hex4_eq_ok_iff.2 hh, hlow, hhigh, Bool.false_eq_true, if_false, hsecond]

theorem cons_eq_ok_iff {c : Char} {r : Scan (List Char)} {cs rest : List Char} :
    cons c r = .ok (cs, rest) ↔ ∃ ds, r = .ok (ds, rest) ∧ c :: ds = cs := by
  constructor
  · intro h
    obtain ⟨⟨ds, t⟩, hds, heq⟩ := map_eq_ok_iff.1 h
    cases heq
    exact ⟨ds, hds, rfl⟩
  · rintro ⟨ds, hds, rfl⟩
    exact map_eq_ok_iff.2 ⟨_, hds, rfl⟩

/-- A string is read as the grammar says, up to its closing quote. -/
theorem stringRest_eq_ok_iff {s cs rest : List Char} :
    stringRest s = .ok (cs, rest) ↔ Glyphs s cs rest := by
  constructor
  · fun_induction stringRest s generalizing cs with
    | case1 => exact nofun
    | case2 s =>
      intro h
      cases h
      exact .close
    | case3 s f _ hf => exact nofun
    | case4 s e t ht _ ih =>
      intro h
      obtain ⟨ds, hds, rfl⟩ := cons_eq_ok_iff.1 h
      exact .more (escape_eq_ok_iff.1 ht) (ih hds)
    | case5 c s hquote hslash hcontrol => exact nofun
    | case6 c s hquote hslash hcontrol ih =>
      intro h
      obtain ⟨ds, hds, rfl⟩ := cons_eq_ok_iff.1 h
      exact .more (.raw (Char.not_lt.1 hcontrol) hquote hslash) (ih hds)
  · intro h
    induction h with
    | close =>
      rw [stringRest]
      exact if_pos rfl
    | more hc _ ih =>
      cases hc with
      | raw hspace hquote hslash =>
        rw [stringRest, if_neg hquote, if_neg hslash, if_neg (by simpa using hspace), ih]
        rfl
      | short he =>
        rw [StringLemmas.stringRest_of_escape (escape_eq_ok_iff.2 (.short he)), ih]
        rfl
      | code hn =>
        rw [StringLemmas.stringRest_of_escape (escape_eq_ok_iff.2 (.code hn)), ih]
        rfl
      | pair hmax hh hl =>
        rw [StringLemmas.stringRest_of_escape (escape_eq_ok_iff.2 (.pair hmax hh hl)), ih]
        rfl

theorem string_eq_ok_iff {s rest : List Char} {text : String} :
    string s = .ok (text, rest) ↔ ∃ cs, Glyphs s cs rest ∧ text = String.ofList cs := by
  simp only [← stringRest_eq_ok_iff, string]
  constructor
  · intro h
    obtain ⟨⟨cs, t⟩, hcs, heq⟩ := map_eq_ok_iff.1 h
    cases heq
    exact ⟨cs, hcs, rfl⟩
  · rintro ⟨cs, hcs, rfl⟩
    exact map_eq_ok_iff.2 ⟨_, hcs, rfl⟩

/-! ## Words and colons -/

theorem word_eq_ok_iff {letters s rest : List Char} :
    word letters s = .ok rest ↔ s = letters ++ rest := by
  induction letters generalizing s with
  | nil => simp [word]
  | cons c letters ih =>
    cases s with
    | nil => simp [word, refuse]
    | cons d s =>
      unfold word
      by_cases h : c = d
      · subst h
        simp [ih]
      · simp [h, Ne.symm h, refuse]

/-- A name is read with its colon. -/
theorem colon_eq_ok_iff {s rest : List Char} :
    colon s = .ok rest ↔ Space s (':' :: rest) := by
  constructor
  · intro h
    have hspace := space_skipSpace s
    unfold colon at h
    split at h
    · cases h
    · rename_i c t hs
      split at h
      · rename_i hc
        subst hc
        cases h
        exact hs ▸ hspace
      · cases h
  · intro h
    unfold colon
    rw [h.skipSpace_cons (by decide)]
    rfl

end Scan

end CompileSession.Json
