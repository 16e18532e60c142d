import CompileSession.Json.Scan
import CompileSession.Json.Writer

/-!
# Strings read back

A string is written with some of its characters escaped. Each character is read back by itself,
however it was written, so the string is; what comes after its closing quote is left.

Results:
1. `stringRest_escapeChar`: one character.
2. `string_renderString`: a string.
-/

namespace CompileSession.Json

namespace StringLemmas

/-- Every character takes an octet. -/
theorem length_le_octetCount (cs : List Char) : cs.length ≤ Text.octetCount cs := by
  induction cs with
  | nil => exact Nat.le_refl 0
  | cons c cs ih =>
    have hsplit : Text.octetCount (c :: cs) = c.utf8Size + Text.octetCount cs := by
      simp [Text.octetCount, Text.encode]
    have hpos := c.utf8Size_pos
    rw [hsplit, List.length_cons]
    omega

/-- What an escape stands for comes in front of the rest of the string. -/
theorem stringRest_of_escape {s rest : List Char} {e : Char}
    (h : Scan.escape s = .ok (e, rest)) :
    Scan.stringRest ('\\' :: s) = Scan.cons e (Scan.stringRest rest) := by
  rw [Scan.stringRest]
  simp only [Char.reduceEq, if_false, if_true]
  split
  · rename_i f hf
    rw [h] at hf
    cases hf
  · rename_i e' rest' hok
    rw [h] at hok
    cases hok
    rfl

/-- A control character is read back from its four digits. -/
theorem escape_control {n : Nat} (hn : n < 32) (s : List Char) :
    Scan.escape ('u' :: '0' :: '0' :: Text.hexDigit (n / 16) :: Text.hexDigit (n % 16) :: s) =
      .ok (Char.ofNat n, s) := by
  have hlow : Scan.isLowSurrogate n = false := by simp [Scan.isLowSurrogate]; omega
  have hhigh : Scan.isHighSurrogate n = false := by simp [Scan.isHighSurrogate]; omega
  have hdigits : Scan.hex4? '0' '0' (Text.hexDigit (n / 16)) (Text.hexDigit (n % 16)) = some n := by
    have hzero : Text.hexDigit? '0' = some 0 := by decide
    have hsum : 16 * (n / 16) + n % 16 = n := Nat.div_add_mod n 16
    simp [Scan.hex4?, hzero, Text.hexDigit?_hexDigit (show n / 16 < 16 by omega),
      Text.hexDigit?_hexDigit (Nat.mod_lt n (by decide : 16 > 0)), hsum]
  have hroom (cs : List Char) (h : cs.length = 4) : ¬ Text.octetCount cs < 4 := by
    have := length_le_octetCount cs
    omega
  have hhex : Scan.hex4 ('0' :: '0' :: Text.hexDigit (n / 16) :: Text.hexDigit (n % 16) :: s) =
      .ok (n, s) := by
    unfold Scan.hex4
    rw [if_neg (hroom _ rfl)]
    simp only [hdigits]
  simp only [Scan.escape, if_true, hhex, hlow, hhigh, Bool.false_eq_true, if_false]

end StringLemmas

open StringLemmas

/-- A character that was written is read back, in front of the rest of the string. -/
theorem stringRest_escapeChar (c : Char) (s : List Char) :
    Scan.stringRest (escapeChar c ++ s) = Scan.cons c (Scan.stringRest s) := by
  unfold escapeChar
  -- the quote, the backslash and the controls with a letter of their own
  iterate 7
    split
    · rename_i h
      subst h
      exact stringRest_of_escape rfl
  split
  · rename_i h
    have hread := escape_control (show c.toNat < 32 from h) s
    rw [Char.ofNat_toNat] at hread
    exact stringRest_of_escape hread
  · rename_i hquote hslash _ _ _ _ _ hcontrol
    show Scan.stringRest (c :: s) = _
    rw [Scan.stringRest]
    rw [if_neg hquote, if_neg hslash, if_neg hcontrol]

/-- A string that was written is read back, up to its closing quote. -/
theorem stringRest_flatMap (cs rest : List Char) :
    Scan.stringRest (cs.flatMap escapeChar ++ '"' :: rest) = .ok (cs, rest) := by
  induction cs with
  | nil =>
    rw [List.flatMap_nil, List.nil_append, Scan.stringRest]
    exact if_pos rfl
  | cons c cs ih =>
    rw [List.flatMap_cons, List.append_assoc, stringRest_escapeChar, ih]
    rfl

theorem string_renderString (text : String) (rest : List Char) :
    ∃ s, renderString text ++ rest = '"' :: s ∧ Scan.string s = .ok (text, rest) := by
  refine ⟨text.toList.flatMap escapeChar ++ '"' :: rest, ?_, ?_⟩
  · simp [renderString]
  · rw [Scan.string, stringRest_flatMap]
    exact congrArg (fun t => Except.ok (t, rest)) (String.ofList_toList)

end CompileSession.Json
