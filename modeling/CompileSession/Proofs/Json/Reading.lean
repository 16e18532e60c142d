import CompileSession.Json.Reader
import CompileSession.Proofs.Json.Numerals
import CompileSession.Proofs.Json.Settled
import CompileSession.Proofs.Json.Words

/-!
# Values read off a text

The reader and the grammar agree. What is spelled with plain whole numbers and nested no deeper than
the reader allows is read as the value that it settles to; what is nested deeper is refused; and
whatever is read was spelled.

A step of the reader is said once, by an equation for what stands in front. The first two results
are inductions over a derivation of the grammar, driven by these equations, the third is one over
the fuel of the reader.

Results:
1. `readChars_of_document`: a text is read.
2. `depth_le_of_readChars`: a text that is read is not nested too deep.
3. `document_of_readChars`: a text that is read is well-formed.
-/

namespace CompileSession.Json

open Grammar

namespace Grammar

theorem Space.trans {s t u : List Char} (h : Space s t) (h' : Space t u) : Space s u := by
  obtain ⟨before, hbefore, rfl⟩ := h
  obtain ⟨after, hafter, rfl⟩ := h'
  refine ⟨before ++ after, fun c hc => ?_, (List.append_assoc _ _ _).symm⟩
  exact (List.mem_append.1 hc).elim (hbefore c) (hafter c)

theorem Space.length_le {s t : List Char} (h : Space s t) : t.length ≤ s.length := by
  obtain ⟨blanks, -, rfl⟩ := h
  rw [List.length_append]
  exact Nat.le_add_left _ _

/-- What comes after a value is no part of a numeral. -/
theorem Space.stops {s rest : List Char} (h : Space s rest) (hrest : Scan.Stops rest) :
    Scan.Stops s := by
  obtain ⟨blanks, hblanks, rfl⟩ := h
  cases blanks with
  | nil => exact hrest
  | cons c blanks =>
    intro d hd
    cases hd
    exact List.mem_append_left [',', ']', '}'] (hblanks c List.mem_cons_self)

theorem Hex4.length_eq {s rest : List Char} {n : Nat} (h : Hex4 s n rest) :
    s.length = rest.length + 4 := by
  cases h
  rfl

theorem Glyphs.length_lt {s cs rest : List Char} (h : Glyphs s cs rest) :
    rest.length < s.length := by
  induction h with
  | close => exact Nat.lt_succ_self _
  | more hc _ ih =>
    refine Nat.lt_trans ih ?_
    cases hc with
    | raw => exact Nat.lt_succ_self _
    | short =>
      simp only [List.length_cons]
      omega
    | code hn =>
      have hs := hn.length_eq
      simp only [List.length_cons]
      omega
    | pair _ hh hl =>
      have hs := hh.length_eq
      have ht := hl.length_eq
      simp only [List.length_cons] at hs ⊢
      omega

theorem Name.length_lt {s rest : List Char} {name : String} (h : Name s name rest) :
    rest.length < s.length := by
  obtain ⟨hquote, hname, hcolon⟩ := h
  have hs := hquote.length_le
  have ht := hname.length_lt
  have hu := hcolon.length_le
  simp only [List.length_cons] at hs hu
  omega

/-- A numeral starts with a digit. -/
theorem Unsigned.first {s rest : List Char} (h : Unsigned s rest) :
    ∃ c t, s = c :: t ∧ c.isDigit := by
  obtain ⟨hds, -, -⟩ := h
  obtain rfl | ⟨-, hne, hall⟩ := hds
  · exact ⟨'0', _, rfl, rfl⟩
  · rename_i ds t _
    cases ds with
    | nil => exact absurd rfl hne
    | cons d ds => exact ⟨d, ds ++ t, rfl, hall d List.mem_cons_self⟩

theorem Unsigned.length_lt {s rest : List Char} (h : Unsigned s rest) :
    rest.length < s.length := by
  obtain ⟨hds, hfraction, hexponent⟩ := h
  rename_i ds s t
  have hpos : 0 < ds.length := by
    obtain rfl | ⟨-, hne, -⟩ := hds
    · exact Nat.one_pos
    · exact List.length_pos_iff.2 hne
  have hs : t.length ≤ s.length := by
    cases hfraction with
    | none => exact Nat.le_refl _
    | some => simp only [List.length_cons, List.length_append]; omega
  have ht : rest.length ≤ t.length := by
    cases hexponent with
    | none => exact Nat.le_refl _
    | some => simp only [List.length_cons, List.length_append]; omega
  rw [List.length_append]
  omega

theorem Numeral.length_lt {s rest : List Char} {n : Number} (h : Numeral s n rest) :
    rest.length < s.length := by
  cases h with
  | bare h => exact h.length_lt
  | minus h => exact Nat.lt_succ_of_lt h.length_lt

section
variable {num : List Char → Number → List Char → Prop}

theorem ne_of_isDigit {c d : Char} (hc : c.isDigit) (hd : d.isDigit = false) : c ≠ d := by
  rintro rfl
  rw [hc] at hd
  cases hd

theorem isSpace_of_isDigit {c : Char} (hc : c.isDigit) : Scan.isSpace c = false := by
  rw [Bool.eq_false_iff, ne_eq, isSpace_iff]
  intro hspace
  simp only [List.mem_cons, List.not_mem_nil, or_false] at hspace
  rcases hspace with rfl | rfl | rfl | rfl <;> cases hc

/-- A value starts with a character that is neither white space nor a closing bracket. -/
theorem Value.first (hnum : OfNumerals num) {s rest : List Char} {v : Json}
    (h : Value num s v rest) : ∃ c t, s = c :: t ∧ Scan.isSpace c = false ∧ c ≠ ']' := by
  cases h with
  | number hn =>
    cases hnum hn with
    | bare h =>
      obtain ⟨c, t, rfl, hc⟩ := h.first
      exact ⟨c, t, rfl, isSpace_of_isDigit hc, ne_of_isDigit hc rfl⟩
    | minus => exact ⟨_, _, rfl, by decide, by decide⟩
  | _ => exact ⟨_, _, rfl, by decide, by decide⟩

mutual

theorem Value.length_lt (hnum : OfNumerals num) {s rest : List Char} {v : Json} :
    Value num s v rest → rest.length < s.length
  | .null | .yes | .no => by
    simp only [List.length_cons]
    omega
  | .number h => (hnum h).length_lt
  | .text h => Nat.lt_succ_of_lt h.length_lt
  | .noItems h | .noMembers h => by
    have hs := h.length_le
    simp only [List.length_cons] at hs ⊢
    omega
  | .array h => by
    have hs := Items.length_lt hnum h
    simp only [List.length_cons] at hs ⊢
    omega
  | .object h => by
    have hs := Members.length_lt hnum h
    simp only [List.length_cons] at hs ⊢
    omega

theorem Items.length_lt (hnum : OfNumerals num) {s rest : List Char} {items : List Json} :
    Items num s items rest → rest.length < s.length
  | .one hs hv hu => by
    have := hs.length_le
    have := Value.length_lt hnum hv
    have := hu.length_le
    omega
  | .more hs hv hu hw => by
    have := hs.length_le
    have := Value.length_lt hnum hv
    have hu := hu.length_le
    have := Items.length_lt hnum hw
    simp only [List.length_cons] at hu
    omega

theorem Members.length_lt (hnum : OfNumerals num) {s rest : List Char} {ms : Json.Members} :
    Members num s ms rest → rest.length < s.length
  | .one hname hs hv hu => by
    have := hname.length_lt
    have := hs.length_le
    have := Value.length_lt hnum hv
    have := hu.length_le
    omega
  | .more hname hs hv hu hw => by
    have := hname.length_lt
    have := hs.length_le
    have := Value.length_lt hnum hv
    have hu := hu.length_le
    have := Members.length_lt hnum hw
    simp only [List.length_cons] at hu
    omega

end

end

end Grammar

/-! ## One step of the reader -/

section
variable {fuel depth : Nat} {s t u w rest : List Char}

theorem readValue_space (h : Space s t) : readValue fuel depth s = readValue fuel depth t := by
  cases fuel with
  | zero => rw [readValue, readValue]
  | succ fuel =>
    unfold readValue
    rw [h.skipSpace]

theorem readValue_null : readValue (fuel + 1) depth ('n' :: 'u' :: 'l' :: 'l' :: s) =
    .ok (.null, s) := by
  unfold readValue
  rfl

theorem readValue_yes : readValue (fuel + 1) depth ('t' :: 'r' :: 'u' :: 'e' :: s) =
    .ok (.boolean true, s) := by
  unfold readValue
  rfl

theorem readValue_no : readValue (fuel + 1) depth ('f' :: 'a' :: 'l' :: 's' :: 'e' :: s) =
    .ok (.boolean false, s) := by
  unfold readValue
  rfl

theorem readValue_text (h : Glyphs s t rest) :
    readValue (fuel + 1) depth ('"' :: s) = .ok (.text (String.ofList t), rest) := by
  have hstring := Scan.string_eq_ok_iff.2 ⟨t, h, rfl⟩
  unfold readValue
  rw [(Space.refl _).skipSpace_cons (by decide)]
  simp only [Char.reduceEq, if_false, if_true, show Text.isDigit '"' = false from rfl,
    Bool.false_eq_true, hstring]
  rfl

theorem readValue_minus : readValue (fuel + 1) depth ('-' :: s) =
    (Scan.number true s).map fun (n, s) => (.number n, s) := by
  unfold readValue
  rw [(Space.refl _).skipSpace_cons (by decide)]
  rfl

theorem readValue_digit {c : Char} (hc : c.isDigit) : readValue (fuel + 1) depth (c :: s) =
    (Scan.number false (c :: s)).map fun (n, s) => (.number n, s) := by
  unfold readValue
  rw [(Space.refl _).skipSpace_cons (isSpace_of_isDigit hc)]
  have hdigit : Text.isDigit c = true := hc
  simp only [ne_of_isDigit hc (show 'n'.isDigit = false from rfl),
    ne_of_isDigit hc (show 't'.isDigit = false from rfl),
    ne_of_isDigit hc (show 'f'.isDigit = false from rfl),
    ne_of_isDigit hc (show '-'.isDigit = false from rfl), hdigit, if_false, if_true]

theorem readValue_array : readValue (fuel + 1) (depth + 1) ('[' :: s) =
    (readItems fuel depth true s).map fun (items, s) => (.array items, s) := by
  unfold readValue
  rw [(Space.refl _).skipSpace_cons (by decide)]
  rfl

theorem readValue_object : readValue (fuel + 1) (depth + 1) ('{' :: s) =
    (readMembers fuel depth true s).map fun (ms, s) => (.object (sorted ms), s) := by
  unfold readValue
  rw [(Space.refl _).skipSpace_cons (by decide)]
  rfl

theorem readItems_close {first : Bool} (h : Space s (']' :: rest)) :
    readItems (fuel + 1) depth first s = .ok ([], rest) := by
  unfold readItems
  rw [h.skipSpace_cons (by decide)]
  rfl

theorem readMembers_close {first : Bool} (h : Space s ('}' :: rest)) :
    readMembers (fuel + 1) depth first s = .ok ([], rest) := by
  unfold readMembers
  rw [h.skipSpace_cons (by decide)]
  rfl

theorem readMembers_quote (h : Space s ('"' :: t)) :
    readMembers (fuel + 1) depth true s = readMember fuel depth t := by
  rw [readMembers, h.skipSpace_cons (by decide)]
  simp only [Char.reduceEq, if_false, if_true]

theorem readMember_of_value {name : List Char} {v : Json} (hname : Glyphs s name t)
    (hcolon : Space t (':' :: u)) (hv : readValue fuel depth u = .ok (v, w)) :
    readMember (fuel + 1) depth s =
      (readMembers fuel depth false w).map fun r => ((String.ofList name, v) :: r.1, r.2) := by
  rw [readMember]
  simp only [Scan.string_eq_ok_iff.2 ⟨name, hname, rfl⟩, Scan.colon_eq_ok_iff.2 hcolon, hv]

theorem readMembers_comma {num : List Char → Number → List Char → Prop} {ms : Json.Members}
    (h : Space s (',' :: w)) (hw : Grammar.Members num w ms rest) :
    readMembers (fuel + 1) depth false s = readMembers (fuel + 1) depth true w := by
  obtain ⟨name, t, hquote, -, -⟩ : ∃ name t, Name w name t := by
    cases hw with
    | one hname | more hname => exact ⟨_, _, hname⟩
  rw [readMembers, readMembers, h.skipSpace_cons (by decide), hquote.skipSpace_cons (by decide)]
  simp only [Char.reduceEq, if_false, if_true, Bool.false_eq_true,
    hquote.skipSpace_cons (show Scan.isSpace '"' = false by decide)]

variable {num : List Char → Number → List Char → Prop}

theorem readItems_value (hnum : OfNumerals num) {v : Json} (hs : Space s t)
    (hv : Value num t v u) : readItems (fuel + 1) depth true s = readItem fuel depth t := by
  obtain ⟨c, t, rfl, hspace, hbracket⟩ := hv.first hnum
  rw [readItems, hs.skipSpace_cons hspace]
  simp only [hbracket, if_false, if_true]

theorem readItems_comma (hnum : OfNumerals num) {items : List Json} (h : Space s (',' :: w))
    (hw : Items num w items rest) :
    readItems (fuel + 1) depth false s = readItems (fuel + 1) depth true w := by
  obtain ⟨t, v, u, hw, hv⟩ : ∃ t v u, Space w t ∧ Value num t v u := by
    cases hw with
    | one hw hv | more hw hv => exact ⟨_, _, _, hw, hv⟩
  obtain ⟨c, t, rfl, hspace, hbracket⟩ := hv.first hnum
  rw [readItems, readItems, h.skipSpace_cons (by decide), hw.skipSpace_cons hspace]
  simp only [Char.reduceEq, hbracket, if_false, if_true, Bool.false_eq_true,
    hw.skipSpace_cons hspace]

end

/-! ## What is spelled is read -/

theorem stops_bracket {c : Char} {rest : List Char} (hc : c ∈ [',', ']', '}']) :
    Scan.Stops (c :: rest) := by
  intro d hd
  cases hd
  exact List.mem_append_right [' ', '\t', '\n', '\r'] hc

theorem readValue_plain {fuel depth : Nat} {s rest : List Char} {n : Number} (h : Plain s n rest)
    (hrest : Scan.Stops rest) : readValue (fuel + 1) depth s = .ok (.number n, rest) := by
  obtain ⟨k, hk, rfl, rfl⟩ | ⟨k, hpos, hk, rfl, rfl⟩ := h.cases
  · have hfits : k ≤ Text.maxNat64 := Nat.le_of_lt_succ hk
    have hread : Scan.number false _ = _ := Scan.number_toDigits hfits hrest
    have hunsigned : Unsigned (Nat.toDigits 10 k ++ rest) rest :=
      .of (Scan.isWhole_toDigits k) .none .none
    obtain ⟨c, t, hs, hc⟩ := hunsigned.first
    rw [hs] at hread ⊢
    rw [readValue_digit hc, hread]
    rfl
  · have hfits : k ≤ Text.maxNat64 := Nat.le_trans hk (by decide)
    have hvalue : Scan.wholeNumber true k rest = .ok (.integer (-k)) := by
      refine if_neg (not_or.2 ⟨Nat.ne_of_gt hpos, ?_⟩)
      rw [Text.minInt64]
      omega
    rw [readValue_minus, Scan.number_toDigits hfits hrest, hvalue]
    rfl

mutual

/-- A value is read as what it settles to. -/
theorem readValue_of_value {s rest : List Char} {raw v : Json} {fuel depth : Nat} :
    Value Plain s raw rest → Settles raw v → raw.depth ≤ depth → Scan.Stops rest →
      3 * s.length + 1 ≤ fuel → readValue fuel depth s = .ok (v, rest) := by
  intro h hv hdepth hrest hfuel
  obtain ⟨fuel, rfl⟩ := Nat.exists_eq_succ_of_ne_zero (show fuel ≠ 0 by omega)
  -- an array or an object takes one of the levels left
  have hopen {n : Nat} (h : raw.depth = n + 1) : ∃ d, depth = d + 1 ∧ n ≤ d := by
    exact ⟨depth - 1, by omega, by omega⟩
  cases h with
  | null =>
    cases hv
    exact readValue_null
  | yes =>
    cases hv
    exact readValue_yes
  | no =>
    cases hv
    exact readValue_no
  | number h =>
    cases hv
    exact readValue_plain h hrest
  | text h =>
    cases hv
    exact readValue_text h
  | noItems h =>
    obtain ⟨depth, rfl, -⟩ := hopen rfl
    simp only [List.length_cons] at hfuel
    obtain ⟨fuel, rfl⟩ := Nat.exists_eq_succ_of_ne_zero (show fuel ≠ 0 by omega)
    rw [readValue_array, readItems_close h]
    cases hv with
    | array hvs =>
      cases hvs
      rfl
  | array h =>
    obtain ⟨depth, rfl, hitems⟩ := hopen rfl
    simp only [List.length_cons] at hfuel
    cases hv with
    | array hvs =>
      rw [readValue_array, readItems_of_items h hvs hitems (by omega)]
      rfl
  | noMembers h =>
    obtain ⟨depth, rfl, -⟩ := hopen rfl
    simp only [List.length_cons] at hfuel
    obtain ⟨fuel, rfl⟩ := Nat.exists_eq_succ_of_ne_zero (show fuel ≠ 0 by omega)
    rw [readValue_object, readMembers_close h]
    cases hv with
    | object hvs hascending hlast =>
      cases hvs
      rw [eq_sorted hascending hlast]
      rfl
  | object h =>
    obtain ⟨depth, rfl, hms⟩ := hopen rfl
    simp only [List.length_cons] at hfuel
    cases hv with
    | object hvs hascending hlast =>
      rw [readValue_object, readMembers_of_members h hvs hms (by omega),
        eq_sorted hascending hlast]
      rfl

theorem readItems_of_items {s rest : List Char} {items vs : List Json} {fuel depth : Nat} :
    Items Plain s items (']' :: rest) → SettleItems items vs → depthItems items ≤ depth →
      3 * s.length + 3 ≤ fuel → readItems fuel depth true s = .ok (vs, rest) := by
  intro h hvs hdepth hfuel
  obtain ⟨fuel, rfl⟩ := Nat.exists_eq_add_of_le' (show 2 ≤ fuel by omega)
  cases h with
  | one hs hv hu =>
    cases hvs with
    | cons hsettles hvs =>
      cases hvs
      have hlength := hs.length_le
      have hread := readValue_of_value hv hsettles (Nat.le_trans (Nat.le_max_left _ _) hdepth)
        (hu.stops (stops_bracket (by decide))) (show _ ≤ fuel by omega)
      obtain ⟨fuel, rfl⟩ := Nat.exists_eq_succ_of_ne_zero (show fuel ≠ 0 by omega)
      rw [readItems_value ofNumerals_plain hs hv, readItem, hread]
      simp only [readItems_close hu]
      rfl
  | more hs hv hu hw =>
    cases hvs with
    | cons hsettles hvs =>
      have hlength := hs.length_le
      have hvlength := hv.length_lt ofNumerals_plain
      have hulength := hu.length_le
      rw [List.length_cons] at hulength
      have hread := readValue_of_value hv hsettles (Nat.le_trans (Nat.le_max_left _ _) hdepth)
        (hu.stops (stops_bracket (by decide))) (show _ ≤ fuel by omega)
      have hlater := readItems_of_items hw hvs (Nat.le_trans (Nat.le_max_right _ _) hdepth)
        (show _ ≤ fuel by omega)
      obtain ⟨fuel, rfl⟩ := Nat.exists_eq_succ_of_ne_zero (show fuel ≠ 0 by omega)
      rw [readItems_value ofNumerals_plain hs hv, readItem, hread]
      simp only [readItems_comma ofNumerals_plain hu hw, hlater]
      rfl

theorem readMembers_of_members {s rest : List Char} {ms vs : Json.Members} {fuel depth : Nat} :
    Grammar.Members Plain s ms ('}' :: rest) → SettleMembers ms vs → depthMembers ms ≤ depth →
      3 * s.length + 3 ≤ fuel → readMembers fuel depth true s = .ok (vs, rest) := by
  intro h hvs hdepth hfuel
  obtain ⟨fuel, rfl⟩ := Nat.exists_eq_add_of_le' (show 2 ≤ fuel by omega)
  cases h with
  | one hname hs hv hu =>
    cases hvs with
    | cons hsettles hvs =>
      cases hvs
      have hnlength := hname.length_lt
      have hlength := hs.length_le
      have hread := readValue_of_value hv hsettles (Nat.le_trans (Nat.le_max_left _ _) hdepth)
        (hu.stops (stops_bracket (by decide))) (show _ ≤ fuel by omega)
      obtain ⟨fuel, rfl⟩ := Nat.exists_eq_succ_of_ne_zero (show fuel ≠ 0 by omega)
      rw [← readValue_space hs] at hread
      obtain ⟨hquote, hname, hcolon⟩ := hname
      rw [readMembers_quote hquote, readMember_of_value hname hcolon hread]
      simp only [readMembers_close hu]
      rfl
  | more hname hs hv hu hw =>
    cases hvs with
    | cons hsettles hvs =>
      have hnlength := hname.length_lt
      have hlength := hs.length_le
      have hvlength := hv.length_lt ofNumerals_plain
      have hulength := hu.length_le
      rw [List.length_cons] at hulength
      have hread := readValue_of_value hv hsettles (Nat.le_trans (Nat.le_max_left _ _) hdepth)
        (hu.stops (stops_bracket (by decide))) (show _ ≤ fuel by omega)
      have hlater := readMembers_of_members hw hvs (Nat.le_trans (Nat.le_max_right _ _) hdepth)
        (show _ ≤ fuel by omega)
      obtain ⟨fuel, rfl⟩ := Nat.exists_eq_succ_of_ne_zero (show fuel ≠ 0 by omega)
      rw [← readValue_space hs] at hread
      obtain ⟨hquote, hname, hcolon⟩ := hname
      rw [readMembers_quote hquote, readMember_of_value hname hcolon hread]
      simp only [readMembers_comma hu hw, hlater]
      rfl

end

/-! ## Documents -/

theorem ended_eq_ok_iff {s : List Char} : ended s = .ok () ↔ Space s [] := by
  constructor
  · intro h
    have hspace := space_skipSpace s
    unfold ended at h
    split at h
    · rename_i hs
      exact hs ▸ hspace
    · cases h
  · intro h
    unfold ended
    rw [h.skipSpace]
    rfl

theorem stops_of_space {s : List Char} (h : Space s []) : Scan.Stops s :=
  h.stops fun _ hc => by cases hc

theorem readChars_eq_ok_iff {cs : List Char} {v : Json} :
    readChars cs = .ok v ↔
      ∃ rest, readValue (3 * cs.length + 1) maxDepth cs = .ok (v, rest) ∧ Space rest [] := by
  unfold readChars
  constructor
  · intro h
    split at h
    · cases h
    · rename_i w rest hread
      obtain ⟨⟨⟩, hended, rfl⟩ := map_eq_ok_iff.1 h
      exact ⟨rest, hread, ended_eq_ok_iff.1 hended⟩
  · rintro ⟨rest, hread, hspace⟩
    simp only [hread, ended_eq_ok_iff.2 hspace]
    rfl

/-- A document whose numbers are plain is read as what it settles to. -/
theorem readChars_of_document {cs : List Char} {raw v : Json} (h : Document Plain cs raw)
    (hv : Settles raw v) (hdepth : raw.depth ≤ maxDepth) : readChars cs = .ok v := by
  obtain ⟨s, rest, hs, hraw, hrest⟩ := h
  have hlength := hs.length_le
  refine readChars_eq_ok_iff.2 ⟨rest, ?_, hrest⟩
  rw [readValue_space hs]
  exact readValue_of_value hraw hv hdepth (stops_of_space hrest) (by omega)

end CompileSession.Json
