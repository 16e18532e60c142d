import CompileSession.Json.Pass
import CompileSession.Proofs.Json.Loose

/-!
# Values passed over

The reader that passes over a value accepts just the loose values, and leaves what they leave.

Results:
1. `Scan.passString_eq_ok_iff`: a string.
2. `pass_of_loose`: a loose value is passed over.
3. `loose_of_pass`: what is passed over is a loose value.
-/

namespace CompileSession.Json

open Grammar

/-! ## Words -/

namespace Scan

theorem passEscape_of_ok {s t : List Char} (h : passEscape s = .ok t) :
    (∃ e c, s = e :: t ∧ (e, c) ∈ shortEscapes) ∨ ∃ n u, s = 'u' :: u ∧ Hex4 u n t := by
  unfold passEscape at h
  split at h
  · cases h
  · rename_i e s
    split at h
    · rename_i he
      subst he
      obtain ⟨⟨n, u⟩, hn, heq⟩ := map_eq_ok_iff.1 h
      cases heq
      exact .inr ⟨n, s, rfl, hex4_eq_ok_iff.1 hn⟩
    · split at h
      · rename_i hshort
        obtain ⟨c, hc⟩ := Option.isSome_iff_exists.1 hshort
        cases h
        exact .inl ⟨e, c, rfl, shortEscape?_eq_some_iff.1 hc⟩
      · cases h

theorem passEscape_short {e c : Char} {s : List Char} (h : (e, c) ∈ shortEscapes) :
    passEscape (e :: s) = .ok s := by
  have hu : e ≠ 'u' := by
    rintro rfl
    simp [shortEscapes] at h
  unfold passEscape
  simp only [if_neg hu, shortEscape?_eq_some_iff.2 h, Option.isSome_some, if_true]

theorem passEscape_code {n : Nat} {s t : List Char} (h : Hex4 s n t) :
    passEscape ('u' :: s) = .ok t := by
  unfold passEscape
  simp only [if_true, hex4_eq_ok_iff.2 h]
  rfl

theorem passString_of_escape {s t : List Char} (h : passEscape s = .ok t) :
    passString ('\\' :: s) = passString t := by
  rw [passString, if_neg (by decide), if_pos rfl]
  split
  · rename_i hf
    rw [h] at hf
    cases hf
  · rename_i ht
    rw [h] at ht
    cases ht
    rfl

/-- A string is passed over up to its closing quote. -/
theorem passString_eq_ok_iff {s rest : List Char} : passString s = .ok rest ↔ Strand s rest := by
  constructor
  · fun_induction passString s with
    | case1 => exact nofun
    | case2 s =>
      intro h
      cases h
      exact .close
    | case3 s f _ hf => exact nofun
    | case4 s t ht _ ih =>
      intro h
      obtain ⟨e, c, rfl, he⟩ | ⟨n, u, rfl, hu⟩ := passEscape_of_ok ht
      · exact .short he (ih h)
      · exact .code hu (ih h)
    | case5 c s hquote hslash hcontrol => exact nofun
    | case6 c s hquote hslash hcontrol ih =>
      exact fun h => .raw (Char.not_lt.1 hcontrol) hquote hslash (ih h)
  · intro h
    induction h with
    | close =>
      rw [passString]
      exact if_pos rfl
    | raw hspace hquote hslash _ ih =>
      rw [passString, if_neg hquote, if_neg hslash, if_neg (by simpa using hspace), ih]
    | short he _ ih => rw [passString_of_escape (passEscape_short he), ih]
    | code hn _ ih => rw [passString_of_escape (passEscape_code hn), ih]

theorem passNumber_of_unsigned {s rest : List Char} (h : Unsigned s rest) (hrest : Stops rest) :
    passNumber s = .ok rest := by
  obtain ⟨n, hn⟩ := numeral_of_unsigned .badNumber false h hrest
  rw [passNumber, hn]
  rfl

theorem unsigned_of_passNumber {s rest : List Char} (h : passNumber s = .ok rest) :
    Unsigned s rest := by
  obtain ⟨⟨n, t⟩, hn, heq⟩ := map_eq_ok_iff.1 h
  cases heq
  exact unsigned_of_numeral hn

end Scan

/-! ## One step of the reader -/

section
variable {fuel : Nat} {s t u w rest : List Char}

theorem passValue_space (h : Space s t) : passValue fuel s = passValue fuel t := by
  cases fuel with
  | zero => rw [passValue, passValue]
  | succ fuel =>
    unfold passValue
    rw [h.skipSpace]

theorem passValue_word {c : Char} {letters : List Char}
    (h : (c, letters) ∈ [('n', ['u', 'l', 'l']), ('t', ['r', 'u', 'e']),
      ('f', ['a', 'l', 's', 'e'])]) :
    passValue (fuel + 1) (c :: (letters ++ s)) = .ok s := by
  simp only [List.mem_cons, Prod.mk.injEq, List.not_mem_nil, or_false] at h
  unfold passValue
  rcases h with ⟨rfl, rfl⟩ | ⟨rfl, rfl⟩ | ⟨rfl, rfl⟩ <;> rfl

theorem passValue_text : passValue (fuel + 1) ('"' :: s) = Scan.passString s := by
  unfold passValue
  rfl

theorem passValue_minus : passValue (fuel + 1) ('-' :: s) = Scan.passNumber s := by
  unfold passValue
  rfl

theorem passValue_digit {c : Char} (hc : c.isDigit) :
    passValue (fuel + 1) (c :: s) = Scan.passNumber (c :: s) := by
  unfold passValue
  rw [(Space.refl _).skipSpace_cons (isSpace_of_isDigit hc)]
  have hdigit : Text.isDigit c = true := hc
  simp only [ne_of_isDigit hc (show 'n'.isDigit = false from rfl),
    ne_of_isDigit hc (show 't'.isDigit = false from rfl),
    ne_of_isDigit hc (show 'f'.isDigit = false from rfl),
    ne_of_isDigit hc (show '-'.isDigit = false from rfl), hdigit, if_false, if_true]

theorem passValue_array : passValue (fuel + 1) ('[' :: s) = passItems fuel true s := by
  rw [passValue]
  rfl

theorem passValue_object : passValue (fuel + 1) ('{' :: s) = passMembers fuel true s := by
  rw [passValue]
  rfl

theorem passItems_close {first : Bool} (h : Space s (']' :: rest)) :
    passItems (fuel + 1) first s = .ok rest := by
  unfold passItems
  rw [h.skipSpace_cons (by decide)]
  rfl

theorem passMembers_close {first : Bool} (h : Space s ('}' :: rest)) :
    passMembers (fuel + 1) first s = .ok rest := by
  unfold passMembers
  rw [h.skipSpace_cons (by decide)]
  rfl

theorem passItems_value (hs : Space s t) (hv : Loose t u) {w : List Char}
    (hpassed : passValue fuel t = .ok w) :
    passItems (fuel + 1) true s = passItems fuel false w := by
  obtain ⟨c, t, rfl, hspace, hbracket⟩ := hv.first
  rw [passItems, hs.skipSpace_cons hspace]
  simp only [hbracket, if_false, if_true, hpassed]

theorem passItems_comma (h : Space s (',' :: w)) (hw : LooseItems w rest) :
    passItems (fuel + 1) false s = passItems (fuel + 1) true w := by
  obtain ⟨t, u, hw, hv⟩ : ∃ t u, Space w t ∧ Loose t u := by
    cases hw with
    | one hw hv | more hw hv => exact ⟨_, _, hw, hv⟩
  obtain ⟨c, t, rfl, hspace, hbracket⟩ := hv.first
  rw [passItems, passItems, h.skipSpace_cons (by decide), hw.skipSpace_cons hspace]
  simp only [Char.reduceEq, hbracket, if_false, if_true, Bool.false_eq_true, passValue_space hw]

theorem passMember_name (h : LooseName s t) (hpassed : passValue fuel t = .ok u) :
    passMember (fuel + 1) s = passMembers fuel false u := by
  obtain ⟨hquote, hname, hcolon⟩ := h
  rw [passMember, hquote.skipSpace_cons (by decide)]
  simp only [if_true, Scan.passString_eq_ok_iff.2 hname, Scan.colon_eq_ok_iff.2 hcolon, hpassed]

theorem passMember_space (h : Space s t) : passMember fuel s = passMember fuel t := by
  cases fuel with
  | zero => rw [passMember, passMember]
  | succ fuel => rw [passMember, passMember, h.skipSpace]

theorem passMembers_name (h : LooseName s t) :
    passMembers (fuel + 1) true s = passMember fuel s := by
  obtain ⟨hquote, -, -⟩ := h
  rw [passMembers, hquote.skipSpace_cons (by decide), passMember_space hquote]
  simp only [Char.reduceEq, if_false, if_true]

theorem passMembers_comma (h : Space s (',' :: w)) (hw : LooseMembers w rest) :
    passMembers (fuel + 1) false s = passMembers (fuel + 1) true w := by
  obtain ⟨t, hname⟩ : ∃ t, LooseName w t := by
    cases hw with
    | one hname | more hname => exact ⟨_, hname⟩
  rw [passMembers_name hname, passMembers, h.skipSpace_cons (by decide)]
  simp only [Char.reduceEq, if_false, if_true, Bool.false_eq_true]

end

/-! ## What is spelled is passed over -/

mutual

theorem passValue_of_loose {s rest : List Char} {fuel : Nat} : Loose s rest → Scan.Stops rest →
    3 * s.length + 1 ≤ fuel → passValue fuel s = .ok rest := by
  intro h hrest hfuel
  obtain ⟨fuel, rfl⟩ := Nat.exists_eq_succ_of_ne_zero (show fuel ≠ 0 by omega)
  cases h with
  | null => exact passValue_word (show ('n', ['u', 'l', 'l']) ∈ _ by decide)
  | yes => exact passValue_word (show ('t', ['r', 'u', 'e']) ∈ _ by decide)
  | no => exact passValue_word (show ('f', ['a', 'l', 's', 'e']) ∈ _ by decide)
  | bare h =>
    obtain ⟨c, t, rfl, hc⟩ := h.first
    rw [passValue_digit hc, Scan.passNumber_of_unsigned h hrest]
  | minus h => rw [passValue_minus, Scan.passNumber_of_unsigned h hrest]
  | text h => rw [passValue_text, Scan.passString_eq_ok_iff.2 h]
  | noItems h =>
    simp only [List.length_cons] at hfuel
    obtain ⟨fuel, rfl⟩ := Nat.exists_eq_succ_of_ne_zero (show fuel ≠ 0 by omega)
    rw [passValue_array, passItems_close h]
  | array h =>
    simp only [List.length_cons] at hfuel
    rw [passValue_array, passItems_of_loose h (by omega)]
  | noMembers h =>
    simp only [List.length_cons] at hfuel
    obtain ⟨fuel, rfl⟩ := Nat.exists_eq_succ_of_ne_zero (show fuel ≠ 0 by omega)
    rw [passValue_object, passMembers_close h]
  | object h =>
    simp only [List.length_cons] at hfuel
    rw [passValue_object, passMembers_of_loose h (by omega)]

theorem passItems_of_loose {s rest : List Char} {fuel : Nat} : LooseItems s (']' :: rest) →
    3 * s.length + 3 ≤ fuel → passItems fuel true s = .ok rest := by
  intro h hfuel
  obtain ⟨fuel, rfl⟩ := Nat.exists_eq_add_of_le' (show 2 ≤ fuel by omega)
  cases h with
  | one hs hv hu =>
    have hlength := hs.length_le
    have hpassed := passValue_of_loose hv (hu.stops (stops_bracket (by decide)))
      (show _ ≤ fuel + 1 by omega)
    rw [passItems_value hs hv hpassed, passItems_close hu]
  | more hs hv hu hw =>
    have hlength := hs.length_le
    have hvlength := hv.before.length_lt
    have hulength := hu.length_le
    rw [List.length_cons] at hulength
    have hpassed := passValue_of_loose hv (hu.stops (stops_bracket (by decide)))
      (show _ ≤ fuel + 1 by omega)
    rw [passItems_value hs hv hpassed, passItems_comma hu hw, passItems_of_loose hw (by omega)]

theorem passMembers_of_loose {s rest : List Char} {fuel : Nat} : LooseMembers s ('}' :: rest) →
    3 * s.length + 3 ≤ fuel → passMembers fuel true s = .ok rest := by
  intro h hfuel
  obtain ⟨fuel, rfl⟩ := Nat.exists_eq_add_of_le' (show 3 ≤ fuel by omega)
  cases h with
  | one hname hs hv hu =>
    have hnlength := hname.before.length_lt
    have hlength := hs.length_le
    have hpassed := passValue_of_loose hv (hu.stops (stops_bracket (by decide)))
      (show _ ≤ fuel + 1 by omega)
    rw [← passValue_space hs] at hpassed
    rw [passMembers_name hname, passMember_name hname hpassed, passMembers_close hu]
  | more hname hs hv hu hw =>
    have hnlength := hname.before.length_lt
    have hlength := hs.length_le
    have hvlength := hv.before.length_lt
    have hulength := hu.length_le
    rw [List.length_cons] at hulength
    have hpassed := passValue_of_loose hv (hu.stops (stops_bracket (by decide)))
      (show _ ≤ fuel + 1 by omega)
    rw [← passValue_space hs] at hpassed
    rw [passMembers_name hname, passMember_name hname hpassed, passMembers_comma hu hw,
      passMembers_of_loose hw (by omega)]

end

/-! ## What is passed over was spelled -/

/-- Whatever is passed over with this much fuel was spelled. -/
structure Passes (fuel : Nat) : Prop where
  value : ∀ {s rest}, passValue fuel s = .ok rest → ∃ t, Space s t ∧ Loose t rest
  firstItem : ∀ {s rest}, passItems fuel true s = .ok rest →
    Space s (']' :: rest) ∨ LooseItems s (']' :: rest)
  moreItems : ∀ {s rest}, passItems fuel false s = .ok rest →
    Space s (']' :: rest) ∨ ∃ t, Space s (',' :: t) ∧ LooseItems t (']' :: rest)
  member : ∀ {s rest}, passMember fuel s = .ok rest → LooseMembers s ('}' :: rest)
  firstMember : ∀ {s rest}, passMembers fuel true s = .ok rest →
    Space s ('}' :: rest) ∨ LooseMembers s ('}' :: rest)
  moreMembers : ∀ {s rest}, passMembers fuel false s = .ok rest →
    Space s ('}' :: rest) ∨ ∃ t, Space s (',' :: t) ∧ LooseMembers t ('}' :: rest)

namespace Passes

variable {fuel : Nat} {s t u rest : List Char}

/-- The items from one on that was passed over. -/
theorem items (h : Passes fuel) (hs : Space s t) (hpassed : passValue fuel t = .ok u)
    (hlater : passItems fuel false u = .ok rest) : LooseItems s (']' :: rest) := by
  obtain ⟨v, ht, hv⟩ := h.value hpassed
  obtain hu | ⟨w, hu, hw⟩ := h.moreItems hlater
  · exact .one (hs.trans ht) hv hu
  · exact .more (hs.trans ht) hv hu hw

theorem firstItem_succ (h : Passes fuel) (hread : passItems (fuel + 1) true s = .ok rest) :
    Space s (']' :: rest) ∨ LooseItems s (']' :: rest) := by
  have hspace := space_skipSpace s
  rw [passItems] at hread
  split at hread
  · cases hread
  · rename_i c t hs
    rw [hs] at hspace
    split at hread
    · rename_i hc
      subst hc
      cases hread
      exact .inl hspace
    · rw [if_pos rfl] at hread
      split at hread
      · cases hread
      · rename_i u hpassed
        exact .inr (h.items hspace hpassed hread)

theorem moreItems_succ (h : Passes fuel) (hread : passItems (fuel + 1) false s = .ok rest) :
    Space s (']' :: rest) ∨ ∃ t, Space s (',' :: t) ∧ LooseItems t (']' :: rest) := by
  have hspace := space_skipSpace s
  rw [passItems] at hread
  split at hread
  · cases hread
  · rename_i c t hs
    rw [hs] at hspace
    split at hread
    · rename_i hc
      subst hc
      cases hread
      exact .inl hspace
    · rw [if_neg Bool.false_ne_true] at hread
      split at hread
      · rename_i hc
        subst hc
        split at hread
        · cases hread
        · rename_i u hpassed
          exact .inr ⟨t, hspace, h.items (.refl t) hpassed hread⟩
      · cases hread

theorem member_succ (h : Passes fuel) (hread : passMember (fuel + 1) s = .ok rest) :
    LooseMembers s ('}' :: rest) := by
  have hspace := space_skipSpace s
  rw [passMember] at hread
  split at hread
  · cases hread
  · rename_i c t hs
    rw [hs] at hspace
    split at hread
    · rename_i hc
      subst hc
      split at hread
      · cases hread
      · rename_i u hname
        split at hread
        · cases hread
        · rename_i v hcolon
          have hname : LooseName s v :=
            .of hspace (Scan.passString_eq_ok_iff.1 hname) (Scan.colon_eq_ok_iff.1 hcolon)
          split at hread
          · cases hread
          · rename_i w hpassed
            obtain ⟨x, hx, hv⟩ := h.value hpassed
            obtain hw | ⟨y, hw, hy⟩ := h.moreMembers hread
            · exact .one hname hx hv hw
            · exact .more hname hx hv hw hy
    · cases hread

theorem firstMember_succ (h : Passes fuel) (hread : passMembers (fuel + 1) true s = .ok rest) :
    Space s ('}' :: rest) ∨ LooseMembers s ('}' :: rest) := by
  have hspace := space_skipSpace s
  rw [passMembers] at hread
  split at hread
  · cases hread
  · rename_i c t hs
    rw [hs] at hspace
    split at hread
    · rename_i hc
      subst hc
      cases hread
      exact .inl hspace
    · rw [if_pos rfl, ← passMember_space hspace] at hread
      exact .inr (h.member hread)

theorem moreMembers_succ (h : Passes fuel) (hread : passMembers (fuel + 1) false s = .ok rest) :
    Space s ('}' :: rest) ∨ ∃ t, Space s (',' :: t) ∧ LooseMembers t ('}' :: rest) := by
  have hspace := space_skipSpace s
  rw [passMembers] at hread
  split at hread
  · cases hread
  · rename_i c t hs
    rw [hs] at hspace
    split at hread
    · rename_i hc
      subst hc
      cases hread
      exact .inl hspace
    · rw [if_neg Bool.false_ne_true] at hread
      split at hread
      · rename_i hc
        subst hc
        exact .inr ⟨t, hspace, h.member hread⟩
      · cases hread

theorem value_succ (h : Passes fuel) (hread : passValue (fuel + 1) s = .ok rest) :
    ∃ t, Space s t ∧ Loose t rest := by
  have hspace := space_skipSpace s
  rw [passValue] at hread
  split at hread
  · cases hread
  · rename_i c t hs
    rw [hs] at hspace
    -- one case for each character that a value may start with
    split at hread
    · rename_i hc
      rw [hc, Scan.word_eq_ok_iff.1 hread] at hspace
      exact ⟨_, hspace, .null⟩
    split at hread
    · rename_i hc
      rw [hc, Scan.word_eq_ok_iff.1 hread] at hspace
      exact ⟨_, hspace, .yes⟩
    split at hread
    · rename_i hc
      rw [hc, Scan.word_eq_ok_iff.1 hread] at hspace
      exact ⟨_, hspace, .no⟩
    split at hread
    · rename_i hc
      subst hc
      exact ⟨_, hspace, .minus (Scan.unsigned_of_passNumber hread)⟩
    split at hread
    · exact ⟨_, hspace, .bare (Scan.unsigned_of_passNumber hread)⟩
    split at hread
    · rename_i hc
      subst hc
      exact ⟨_, hspace, .text (Scan.passString_eq_ok_iff.1 hread)⟩
    split at hread
    · rename_i hc
      subst hc
      obtain hclose | hitems := h.firstItem hread
      · exact ⟨_, hspace, .noItems hclose⟩
      · exact ⟨_, hspace, .array hitems⟩
    split at hread
    · rename_i hc
      subst hc
      obtain hclose | hms := h.firstMember hread
      · exact ⟨_, hspace, .noMembers hclose⟩
      · exact ⟨_, hspace, .object hms⟩
    · cases hread

end Passes

theorem passes (fuel : Nat) : Passes fuel := by
  induction fuel with
  | zero =>
    -- without fuel nothing is passed over
    constructor
    case value =>
      intro s rest h
      rw [passValue] at h
      cases h
    case firstItem | moreItems =>
      intro s rest h
      rw [passItems] at h
      cases h
    case member =>
      intro s rest h
      rw [passMember] at h
      cases h
    case firstMember | moreMembers =>
      intro s rest h
      rw [passMembers] at h
      cases h
  | succ fuel ih =>
    exact ⟨ih.value_succ, ih.firstItem_succ, ih.moreItems_succ, ih.member_succ,
      ih.firstMember_succ, ih.moreMembers_succ⟩

/-! ## Values of any size -/

/-- A loose value is passed over. -/
theorem pass_of_loose {s t rest : List Char} (hs : Space s t) (h : Loose t rest)
    (hrest : Scan.Stops rest) : pass s = .ok rest := by
  have hlength := hs.length_le
  rw [pass, passValue_space hs]
  exact passValue_of_loose h hrest (by omega)

/-- What is passed over is a loose value. -/
theorem loose_of_pass {s rest : List Char} (h : pass s = .ok rest) :
    ∃ t, Space s t ∧ Loose t rest :=
  (passes _).value h

end CompileSession.Json
