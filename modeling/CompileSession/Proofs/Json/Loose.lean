import CompileSession.Proofs.Json.Reading

/-!
# The grammar of values passed over

What may stand where nobody looks. A loose value is spelled like any other, but the surrogates in
its strings need no partner, its numerals may have any size and it may nest without limit. The
grammar says which characters a loose value leaves, and nothing of what it stands for.

Results:
1. `Value.loose`: what can be read can be passed over.
2. `Loose.append`: a loose value is some characters in front of those it leaves.
-/

namespace CompileSession.Json

namespace Grammar

/-! ## The grammar -/

/-- The characters of a string and the quote that closes it, with or without partners for its
surrogates. -/
inductive Strand : List Char → List Char → Prop where
  | close {s : List Char} : Strand ('"' :: s) s
  | raw {c : Char} {s rest : List Char} : ' ' ≤ c → c ≠ '"' → c ≠ '\\' → Strand s rest →
      Strand (c :: s) rest
  | short {e c : Char} {s rest : List Char} : (e, c) ∈ shortEscapes → Strand s rest →
      Strand ('\\' :: e :: s) rest
  | code {n : Nat} {s t rest : List Char} : Hex4 s n t → Strand t rest →
      Strand ('\\' :: 'u' :: s) rest

/-- The name of a member that is passed over, and the colon after it. -/
inductive LooseName : List Char → List Char → Prop where
  | of {s t u rest : List Char} : Space s ('"' :: t) → Strand t u → Space u (':' :: rest) →
      LooseName s rest

mutual

/-- A value that is passed over. -/
inductive Loose : List Char → List Char → Prop where
  | null {s : List Char} : Loose ('n' :: 'u' :: 'l' :: 'l' :: s) s
  | yes {s : List Char} : Loose ('t' :: 'r' :: 'u' :: 'e' :: s) s
  | no {s : List Char} : Loose ('f' :: 'a' :: 'l' :: 's' :: 'e' :: s) s
  | bare {s rest : List Char} : Unsigned s rest → Loose s rest
  | minus {s rest : List Char} : Unsigned s rest → Loose ('-' :: s) rest
  | text {s rest : List Char} : Strand s rest → Loose ('"' :: s) rest
  | noItems {s rest : List Char} : Space s (']' :: rest) → Loose ('[' :: s) rest
  | array {s rest : List Char} : LooseItems s (']' :: rest) → Loose ('[' :: s) rest
  | noMembers {s rest : List Char} : Space s ('}' :: rest) → Loose ('{' :: s) rest
  | object {s rest : List Char} : LooseMembers s ('}' :: rest) → Loose ('{' :: s) rest

/-- One value or more that are passed over, with commas in between. -/
inductive LooseItems : List Char → List Char → Prop where
  | one {s t u rest : List Char} : Space s t → Loose t u → Space u rest → LooseItems s rest
  | more {s t u w rest : List Char} : Space s t → Loose t u → Space u (',' :: w) →
      LooseItems w rest → LooseItems s rest

/-- One member or more that are passed over, with commas in between. -/
inductive LooseMembers : List Char → List Char → Prop where
  | one {s t u w rest : List Char} : LooseName s t → Space t u → Loose u w → Space w rest →
      LooseMembers s rest
  | more {s t u w x rest : List Char} : LooseName s t → Space t u → Loose u w →
      Space w (',' :: x) → LooseMembers x rest → LooseMembers s rest

end

/-! ## What can be read -/

theorem Glyphs.strand {s cs rest : List Char} (h : Glyphs s cs rest) : Strand s rest := by
  induction h with
  | close => exact .close
  | more hc _ ih =>
    cases hc with
    | raw hspace hquote hslash => exact .raw hspace hquote hslash ih
    | short he => exact .short he ih
    | code hn => exact .code hn ih
    | pair _ hh hl => exact .code hh (.code hl ih)

theorem Name.looseName {s rest : List Char} {name : String} (h : Name s name rest) :
    LooseName s rest := by
  obtain ⟨hquote, hname, hcolon⟩ := h
  exact .of hquote hname.strand hcolon

section
variable {num : List Char → Number → List Char → Prop}

mutual

/-- What is a value with a meaning can be passed over. -/
theorem Value.loose (hnum : OfNumerals num) {s rest : List Char} {v : Json} :
    Value num s v rest → Loose s rest
  | .null => .null
  | .yes => .yes
  | .no => .no
  | .number h => by
    cases hnum h with
    | bare h => exact .bare h
    | minus h => exact .minus h
  | .text h => .text h.strand
  | .noItems h => .noItems h
  | .array h => .array (Items.loose hnum h)
  | .noMembers h => .noMembers h
  | .object h => .object (Members.loose hnum h)

theorem Items.loose (hnum : OfNumerals num) {s rest : List Char} {items : List Json} :
    Items num s items rest → LooseItems s rest
  | .one hs hv hu => .one hs (Value.loose hnum hv) hu
  | .more hs hv hu hw => .more hs (Value.loose hnum hv) hu (Items.loose hnum hw)

theorem Members.loose (hnum : OfNumerals num) {s rest : List Char} {ms : Json.Members} :
    Members num s ms rest → LooseMembers s rest
  | .one hname hs hv hu => .one hname.looseName hs (Value.loose hnum hv) hu
  | .more hname hs hv hu hw =>
    .more hname.looseName hs (Value.loose hnum hv) hu (Members.loose hnum hw)

end

end

/-! ## What is left -/

/-- Something stands in front of `rest`. -/
def Before (s rest : List Char) : Prop := ∃ q, q ≠ [] ∧ s = q ++ rest

namespace Before

variable {c : Char} {s t rest : List Char}

theorem cons (c : Char) (s : List Char) : Before (c :: s) s := ⟨[c], nofun, rfl⟩

theorem trans (h : Before s t) (h' : Before t rest) : Before s rest := by
  obtain ⟨q, hq, rfl⟩ := h
  obtain ⟨r, -, rfl⟩ := h'
  exact ⟨q ++ r, by simp [hq], (List.append_assoc _ _ _).symm⟩

theorem of_cons (h : Before s (c :: rest)) : Before s rest := h.trans (.cons c rest)

theorem of_space (h : Space s t) (h' : Before t rest) : Before s rest := by
  obtain ⟨blanks, -, rfl⟩ := h
  obtain ⟨q, hq, rfl⟩ := h'
  exact ⟨blanks ++ q, by simp [hq], (List.append_assoc _ _ _).symm⟩

theorem space (h : Before s t) (h' : Space t rest) : Before s rest := by
  obtain ⟨q, hq, rfl⟩ := h
  obtain ⟨blanks, -, rfl⟩ := h'
  exact ⟨q ++ blanks, by simp [hq], (List.append_assoc _ _ _).symm⟩

theorem length_lt (h : Before s rest) : rest.length < s.length := by
  obtain ⟨q, hq, rfl⟩ := h
  have hpos := List.length_pos_iff.2 hq
  rw [List.length_append]
  omega

end Before

theorem Hex4.before {s rest : List Char} {n : Nat} (h : Hex4 s n rest) : Before s rest := by
  cases h with
  | of => exact ⟨[_, _, _, _], nofun, rfl⟩

theorem Strand.before {s rest : List Char} (h : Strand s rest) : Before s rest := by
  induction h with
  | close => exact .cons _ _
  | raw _ _ _ _ ih => exact (Before.cons _ _).trans ih
  | short _ _ ih => exact ((Before.cons _ _).trans (.cons _ _)).trans ih
  | code hn _ ih => exact (((Before.cons _ _).trans (.cons _ _)).trans hn.before).trans ih

theorem LooseName.before {s rest : List Char} (h : LooseName s rest) : Before s rest := by
  obtain ⟨hquote, hname, hcolon⟩ := h
  exact .of_space hquote (((Before.cons _ _).trans hname.before).space hcolon).of_cons

theorem Unsigned.before {s rest : List Char} (h : Unsigned s rest) : Before s rest := by
  obtain ⟨hds, hfraction, hexponent⟩ := h
  rename_i ds s t
  have hne : ds ≠ [] := by
    obtain rfl | ⟨-, hne, -⟩ := hds
    · exact nofun
    · exact hne
  obtain ⟨q, rfl⟩ : ∃ q, s = q ++ t := by
    cases hfraction with
    | none => exact ⟨[], rfl⟩
    | some => exact ⟨_ :: _, rfl⟩
  obtain ⟨r, rfl⟩ : ∃ r, t = r ++ rest := by
    cases hexponent with
    | none => exact ⟨[], rfl⟩
    | some => exact ⟨_ :: (_ ++ _), by simp only [List.cons_append, List.append_assoc]; rfl⟩
  exact ⟨ds ++ (q ++ r), by simp [hne], by simp⟩

mutual

theorem Loose.before {s rest : List Char} : Loose s rest → Before s rest
  | .null => ⟨['n', 'u', 'l', 'l'], nofun, rfl⟩
  | .yes => ⟨['t', 'r', 'u', 'e'], nofun, rfl⟩
  | .no => ⟨['f', 'a', 'l', 's', 'e'], nofun, rfl⟩
  | .bare h => h.before
  | .minus h => (Before.cons _ _).trans h.before
  | .text h => (Before.cons _ _).trans h.before
  | .noItems h | .noMembers h => ((Before.cons _ _).space h).of_cons
  | .array h => ((Before.cons _ _).trans (LooseItems.before h)).of_cons
  | .object h => ((Before.cons _ _).trans (LooseMembers.before h)).of_cons

theorem LooseItems.before {s rest : List Char} : LooseItems s rest → Before s rest
  | .one hs hv hu => .of_space hs ((Loose.before hv).space hu)
  | .more hs hv hu hw =>
    .of_space hs (((Loose.before hv).space hu).of_cons.trans (LooseItems.before hw))

theorem LooseMembers.before {s rest : List Char} : LooseMembers s rest → Before s rest
  | .one hname hs hv hu => hname.before.trans (.of_space hs ((Loose.before hv).space hu))
  | .more hname hs hv hu hw =>
    hname.before.trans
      (.of_space hs (((Loose.before hv).space hu).of_cons.trans (LooseMembers.before hw)))

end

/-- A loose value is some characters in front of those it leaves. -/
theorem Loose.append {s rest : List Char} (h : Loose s rest) : ∃ value, s = value ++ rest := by
  obtain ⟨value, -, hs⟩ := h.before
  exact ⟨value, hs⟩

/-- A loose value starts with a character that is neither white space nor a closing bracket. -/
theorem Loose.first {s rest : List Char} (h : Loose s rest) :
    ∃ c t, s = c :: t ∧ Scan.isSpace c = false ∧ c ≠ ']' := by
  cases h with
  | bare h =>
    obtain ⟨c, t, rfl, hc⟩ := h.first
    exact ⟨c, t, rfl, isSpace_of_isDigit hc, ne_of_isDigit hc rfl⟩
  | _ => exact ⟨_, _, rfl, by decide, by decide⟩

end Grammar

end CompileSession.Json
