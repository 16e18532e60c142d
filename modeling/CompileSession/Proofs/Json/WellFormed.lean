import CompileSession.Proofs.Json.Reading

/-!
# What is read was spelled

The other direction: whatever the reader takes for a value is one by the grammar, and nested no
deeper than the reader allows. So a text that is no JSON document is refused, and one that nests
too deep as well.

The nesting is found by induction over a derivation of the grammar, since the reader must not be
trusted to have met the same derivation; the derivation itself by induction over the fuel.

Results:
1. `depth_le_of_readChars`: a document that is read is not nested too deep.
2. `document_of_readChars`: a text that is read is a document.
-/

namespace CompileSession.Json

open Grammar

/-! ## What a step has read -/

section
variable {fuel depth : Nat} {s rest : List Char}

theorem readItem_eq_ok {items : List Json} (h : readItem fuel depth s = .ok (items, rest)) :
    ∃ f v u later, fuel = f + 1 ∧ readValue f depth s = .ok (v, u) ∧
      readItems f depth false u = .ok (later, rest) := by
  cases fuel with
  | zero =>
    rw [readItem] at h
    cases h
  | succ fuel =>
    rw [readItem] at h
    split at h
    · cases h
    · rename_i v u hv
      obtain ⟨⟨later, t⟩, hlater, heq⟩ := map_eq_ok_iff.1 h
      cases heq
      exact ⟨fuel, v, u, later, rfl, hv, hlater⟩

theorem readMember_eq_ok {ms : Json.Members} (h : readMember fuel depth s = .ok (ms, rest)) :
    ∃ f name t u v w later, fuel = f + 1 ∧ Glyphs s name t ∧ Space t (':' :: u) ∧
      readValue f depth u = .ok (v, w) ∧ readMembers f depth false w = .ok (later, rest) := by
  cases fuel with
  | zero =>
    rw [readMember] at h
    cases h
  | succ fuel =>
    rw [readMember] at h
    split at h
    · cases h
    · rename_i name t hname
      obtain ⟨cs, hname, -⟩ := Scan.string_eq_ok_iff.1 hname
      split at h
      · cases h
      · rename_i u hcolon
        split at h
        · cases h
        · rename_i v w hv
          obtain ⟨⟨later, x⟩, hlater, heq⟩ := map_eq_ok_iff.1 h
          cases heq
          exact ⟨fuel, cs, t, u, v, w, later, rfl, hname, Scan.colon_eq_ok_iff.1 hcolon, hv, hlater⟩

theorem readItems_pos {first : Bool} {items : List Json}
    (h : readItems fuel depth first s = .ok (items, rest)) : ∃ f, fuel = f + 1 := by
  cases fuel with
  | zero =>
    rw [readItems] at h
    cases h
  | succ fuel => exact ⟨fuel, rfl⟩

theorem readMembers_pos {first : Bool} {ms : Json.Members}
    (h : readMembers fuel depth first s = .ok (ms, rest)) : ∃ f, fuel = f + 1 := by
  cases fuel with
  | zero =>
    rw [readMembers] at h
    cases h
  | succ fuel => exact ⟨fuel, rfl⟩

/-- What is read of the members from a name on. -/
theorem readMembers_eq_ok_of_name {name : String} {t : List Char} {ms : Json.Members}
    (h : Name s name t) (hread : readMembers (fuel + 1) depth true s = .ok (ms, rest)) :
    ∃ v u later f, fuel = f + 1 ∧ readValue f depth t = .ok (v, u) ∧
      readMembers f depth false u = .ok (later, rest) := by
  obtain ⟨hquote, hname, hcolon⟩ := h
  rw [readMembers_quote hquote] at hread
  cases fuel with
  | zero =>
    rw [readMember] at hread
    cases hread
  | succ fuel =>
    rw [readMember] at hread
    simp only [Scan.string_eq_ok_iff.2 ⟨_, hname, rfl⟩, Scan.colon_eq_ok_iff.2 hcolon] at hread
    split at hread
    · cases hread
    · rename_i v u hv
      obtain ⟨⟨later, w⟩, hlater, heq⟩ := map_eq_ok_iff.1 hread
      cases heq
      exact ⟨v, u, later, fuel, rfl, hv, hlater⟩

theorem readValue_pos {v : Json} (h : readValue fuel depth s = .ok (v, rest)) :
    ∃ f, fuel = f + 1 := by
  cases fuel with
  | zero =>
    rw [readValue] at h
    cases h
  | succ fuel => exact ⟨fuel, rfl⟩

/-- An array is read with a level of its own. -/
theorem readValue_array_eq_ok {v : Json}
    (h : readValue (fuel + 1) depth ('[' :: s) = .ok (v, rest)) :
    ∃ d items, depth = d + 1 ∧ readItems fuel d true s = .ok (items, rest) := by
  cases depth with
  | zero =>
    unfold readValue at h
    rw [(Space.refl _).skipSpace_cons (by decide)] at h
    cases h
  | succ d =>
    rw [readValue_array] at h
    obtain ⟨⟨items, t⟩, hitems, heq⟩ := map_eq_ok_iff.1 h
    cases heq
    exact ⟨d, items, rfl, hitems⟩

/-- An object is read with a level of its own. -/
theorem readValue_object_eq_ok {v : Json}
    (h : readValue (fuel + 1) depth ('{' :: s) = .ok (v, rest)) :
    ∃ d ms, depth = d + 1 ∧ readMembers fuel d true s = .ok (ms, rest) := by
  cases depth with
  | zero =>
    unfold readValue at h
    rw [(Space.refl _).skipSpace_cons (by decide)] at h
    cases h
  | succ d =>
    rw [readValue_object] at h
    obtain ⟨⟨ms, t⟩, hms, heq⟩ := map_eq_ok_iff.1 h
    cases heq
    exact ⟨d, ms, rfl, hms⟩

/-! ## Nesting -/

theorem rest_eq_of_readValue_numeral {n : Number} {v : Json} {r : List Char} (h : Numeral s n rest)
    (hrest : Scan.Stops rest) (hread : readValue (fuel + 1) depth s = .ok (v, r)) : r = rest := by
  have hnumber {negative : Bool} {t : List Char} (h : Unsigned t rest)
      (hread : (Scan.number negative t).map (fun read => (Json.number read.1, read.2)) =
        .ok (v, r)) :
      r = rest := by
    obtain ⟨⟨n, u⟩, hn, heq⟩ := map_eq_ok_iff.1 hread
    cases heq
    obtain ⟨spelt, hspelt⟩ := Scan.numeral_of_number hn
    obtain ⟨spelt', hspelt'⟩ := Scan.numeral_of_unsigned .endInValue negative h hrest
    exact congrArg Prod.snd (Except.ok.inj (hspelt.symm.trans hspelt'))
  cases h with
  | bare h =>
    obtain ⟨c, t, rfl, hc⟩ := h.first
    rw [readValue_digit hc] at hread
    exact hnumber h hread
  | minus h =>
    rw [readValue_minus] at hread
    exact hnumber h hread

end

mutual

/-- A value that is read is nested no deeper than the reader allows, and leaves what it leaves by
the grammar. -/
theorem depth_le_of_readValue {fuel depth : Nat} {s rest r : List Char} {raw v : Json} :
    Value Numeral s raw rest → Scan.Stops rest → readValue fuel depth s = .ok (v, r) →
      r = rest ∧ raw.depth ≤ depth := by
  intro h hrest hread
  obtain ⟨fuel, rfl⟩ := readValue_pos hread
  cases h with
  | null =>
    rw [readValue_null] at hread
    cases hread
    exact ⟨rfl, Nat.zero_le _⟩
  | yes =>
    rw [readValue_yes] at hread
    cases hread
    exact ⟨rfl, Nat.zero_le _⟩
  | no =>
    rw [readValue_no] at hread
    cases hread
    exact ⟨rfl, Nat.zero_le _⟩
  | number h => exact ⟨rest_eq_of_readValue_numeral h hrest hread, Nat.zero_le _⟩
  | text h =>
    rw [readValue_text h] at hread
    cases hread
    exact ⟨rfl, Nat.zero_le _⟩
  | noItems h =>
    obtain ⟨depth, items, rfl, hitems⟩ := readValue_array_eq_ok hread
    obtain ⟨fuel, rfl⟩ := readItems_pos hitems
    rw [readItems_close h] at hitems
    cases hitems
    exact ⟨rfl, Nat.succ_le_succ (Nat.zero_le _)⟩
  | array h =>
    obtain ⟨depth, items, rfl, hitems⟩ := readValue_array_eq_ok hread
    obtain ⟨rfl, hdepth⟩ := depth_le_of_readItems h hitems
    exact ⟨rfl, Nat.succ_le_succ hdepth⟩
  | noMembers h =>
    obtain ⟨depth, ms, rfl, hms⟩ := readValue_object_eq_ok hread
    obtain ⟨fuel, rfl⟩ := readMembers_pos hms
    rw [readMembers_close h] at hms
    cases hms
    exact ⟨rfl, Nat.succ_le_succ (Nat.zero_le _)⟩
  | object h =>
    obtain ⟨depth, ms, rfl, hms⟩ := readValue_object_eq_ok hread
    obtain ⟨rfl, hdepth⟩ := depth_le_of_readMembers h hms
    exact ⟨rfl, Nat.succ_le_succ hdepth⟩

theorem depth_le_of_readItems {fuel depth : Nat} {s rest r : List Char} {items vs : List Json} :
    Items Numeral s items (']' :: rest) → readItems fuel depth true s = .ok (vs, r) →
      r = rest ∧ depthItems items ≤ depth := by
  intro h hread
  obtain ⟨fuel, rfl⟩ := readItems_pos hread
  cases h with
  | one hs hv hu =>
    rw [readItems_value id hs hv] at hread
    obtain ⟨fuel, v, u, later, rfl, hvalue, hlater⟩ := readItem_eq_ok hread
    obtain ⟨rfl, hdepth⟩ := depth_le_of_readValue hv (hu.stops (stops_bracket (by decide))) hvalue
    obtain ⟨fuel, rfl⟩ := readItems_pos hlater
    rw [readItems_close hu] at hlater
    cases hlater
    exact ⟨rfl, Nat.max_le.2 ⟨hdepth, Nat.zero_le _⟩⟩
  | more hs hv hu hw =>
    rw [readItems_value id hs hv] at hread
    obtain ⟨fuel, v, u, later, rfl, hvalue, hlater⟩ := readItem_eq_ok hread
    obtain ⟨rfl, hdepth⟩ := depth_le_of_readValue hv (hu.stops (stops_bracket (by decide))) hvalue
    obtain ⟨fuel, rfl⟩ := readItems_pos hlater
    rw [readItems_comma id hu hw] at hlater
    obtain ⟨rfl, hdepths⟩ := depth_le_of_readItems hw hlater
    exact ⟨rfl, Nat.max_le.2 ⟨hdepth, hdepths⟩⟩

theorem depth_le_of_readMembers {fuel depth : Nat} {s rest r : List Char} {ms vs : Json.Members} :
    Grammar.Members Numeral s ms ('}' :: rest) → readMembers fuel depth true s = .ok (vs, r) →
      r = rest ∧ depthMembers ms ≤ depth := by
  intro h hread
  obtain ⟨fuel, rfl⟩ := readMembers_pos hread
  cases h with
  | one hname hs hv hu =>
    obtain ⟨v, u, later, fuel, rfl, hvalue, hlater⟩ := readMembers_eq_ok_of_name hname hread
    rw [readValue_space hs] at hvalue
    obtain ⟨rfl, hdepth⟩ := depth_le_of_readValue hv (hu.stops (stops_bracket (by decide))) hvalue
    obtain ⟨fuel, rfl⟩ := readMembers_pos hlater
    rw [readMembers_close hu] at hlater
    cases hlater
    exact ⟨rfl, Nat.max_le.2 ⟨hdepth, Nat.zero_le _⟩⟩
  | more hname hs hv hu hw =>
    obtain ⟨v, u, later, fuel, rfl, hvalue, hlater⟩ := readMembers_eq_ok_of_name hname hread
    rw [readValue_space hs] at hvalue
    obtain ⟨rfl, hdepth⟩ := depth_le_of_readValue hv (hu.stops (stops_bracket (by decide))) hvalue
    obtain ⟨fuel, rfl⟩ := readMembers_pos hlater
    rw [readMembers_comma hu hw] at hlater
    obtain ⟨rfl, hdepths⟩ := depth_le_of_readMembers hw hlater
    exact ⟨rfl, Nat.max_le.2 ⟨hdepth, hdepths⟩⟩

end

/-! ## Derivations -/

namespace Grammar

variable {num : List Char → Number → List Char → Prop} {s t rest : List Char}

theorem Items.of_space {items : List Json} (h : Space s t) (ht : Items num t items rest) :
    Items num s items rest := by
  cases ht with
  | one hs hv hu => exact .one (h.trans hs) hv hu
  | more hs hv hu hw => exact .more (h.trans hs) hv hu hw

end Grammar

/-- Whatever is read with this much fuel was spelled. -/
structure Sound (fuel : Nat) : Prop where
  value : ∀ {depth s v rest}, readValue fuel depth s = .ok (v, rest) →
    ∃ t raw, Space s t ∧ Value Numeral t raw rest
  item : ∀ {depth s vs rest}, readItem fuel depth s = .ok (vs, rest) →
    ∃ items, Items Numeral s items (']' :: rest)
  firstItem : ∀ {depth s vs rest}, readItems fuel depth true s = .ok (vs, rest) →
    Space s (']' :: rest) ∨ ∃ items, Items Numeral s items (']' :: rest)
  moreItems : ∀ {depth s vs rest}, readItems fuel depth false s = .ok (vs, rest) →
    Space s (']' :: rest) ∨ ∃ t items, Space s (',' :: t) ∧ Items Numeral t items (']' :: rest)
  member : ∀ {depth s t vs rest}, readMember fuel depth s = .ok (vs, rest) → Space t ('"' :: s) →
    ∃ ms, Grammar.Members Numeral t ms ('}' :: rest)
  firstMember : ∀ {depth s vs rest}, readMembers fuel depth true s = .ok (vs, rest) →
    Space s ('}' :: rest) ∨ ∃ ms, Grammar.Members Numeral s ms ('}' :: rest)
  moreMembers : ∀ {depth s vs rest}, readMembers fuel depth false s = .ok (vs, rest) →
    Space s ('}' :: rest) ∨ ∃ t ms, Space s (',' :: t) ∧ Grammar.Members Numeral t ms ('}' :: rest)

namespace Sound

variable {fuel depth : Nat} {s t rest : List Char}

theorem item_succ (h : Sound fuel) {vs : List Json}
    (hread : readItem (fuel + 1) depth s = .ok (vs, rest)) :
    ∃ items, Items Numeral s items (']' :: rest) := by
  obtain ⟨_, v, u, later, ⟨⟩, hvalue, hlater⟩ := readItem_eq_ok hread
  obtain ⟨t, raw, hs, hraw⟩ := h.value hvalue
  obtain hu | ⟨w, items, hu, hw⟩ := h.moreItems hlater
  · exact ⟨_, .one hs hraw hu⟩
  · exact ⟨_, .more hs hraw hu hw⟩

theorem member_succ (h : Sound fuel) {vs : Json.Members}
    (hread : readMember (fuel + 1) depth s = .ok (vs, rest)) (hquote : Space t ('"' :: s)) :
    ∃ ms, Grammar.Members Numeral t ms ('}' :: rest) := by
  obtain ⟨_, name, t, u, v, w, later, ⟨⟩, hname, hcolon, hvalue, hlater⟩ := readMember_eq_ok hread
  obtain ⟨x, raw, hu, hraw⟩ := h.value hvalue
  obtain hw | ⟨y, ms, hw, hy⟩ := h.moreMembers hlater
  · exact ⟨_, .one (.of hquote hname hcolon) hu hraw hw⟩
  · exact ⟨_, .more (.of hquote hname hcolon) hu hraw hw hy⟩

theorem firstItem_succ (h : Sound fuel) {vs : List Json}
    (hread : readItems (fuel + 1) depth true s = .ok (vs, rest)) :
    Space s (']' :: rest) ∨ ∃ items, Items Numeral s items (']' :: rest) := by
  have hspace := space_skipSpace s
  rw [readItems] at hread
  split at hread
  · cases hread
  · rename_i c t hs
    rw [hs] at hspace
    split at hread
    · rename_i hc
      subst hc
      cases hread
      exact .inl hspace
    · rw [if_pos rfl] at hread
      obtain ⟨items, hitems⟩ := h.item hread
      exact .inr ⟨items, hitems.of_space hspace⟩

theorem moreItems_succ (h : Sound fuel) {vs : List Json}
    (hread : readItems (fuel + 1) depth false s = .ok (vs, rest)) :
    Space s (']' :: rest) ∨
      ∃ t items, Space s (',' :: t) ∧ Items Numeral t items (']' :: rest) := by
  have hspace := space_skipSpace s
  rw [readItems] at hread
  split at hread
  · cases hread
  · rename_i c t hs
    rw [hs] at hspace
    split at hread
    · rename_i hc
      subst hc
      cases hread
      exact .inl hspace
    · rw [if_neg Bool.false_ne_true] at hread
      split at hread
      · rename_i hc
        subst hc
        have hafter := space_skipSpace t
        split at hread
        · cases hread
        · rename_i d u ht
          rw [ht] at hafter
          split at hread
          · cases hread
          · obtain ⟨items, hitems⟩ := h.item hread
            exact .inr ⟨t, items, hspace, hitems.of_space hafter⟩
      · cases hread

theorem firstMember_succ (h : Sound fuel) {vs : Json.Members}
    (hread : readMembers (fuel + 1) depth true s = .ok (vs, rest)) :
    Space s ('}' :: rest) ∨ ∃ ms, Grammar.Members Numeral s ms ('}' :: rest) := by
  have hspace := space_skipSpace s
  rw [readMembers] at hread
  split at hread
  · cases hread
  · rename_i c t hs
    rw [hs] at hspace
    split at hread
    · rename_i hc
      subst hc
      cases hread
      exact .inl hspace
    · rw [if_pos rfl] at hread
      split at hread
      · rename_i hc
        subst hc
        exact .inr (h.member hread hspace)
      · cases hread

theorem moreMembers_succ (h : Sound fuel) {vs : Json.Members}
    (hread : readMembers (fuel + 1) depth false s = .ok (vs, rest)) :
    Space s ('}' :: rest) ∨
      ∃ t ms, Space s (',' :: t) ∧ Grammar.Members Numeral t ms ('}' :: rest) := by
  have hspace := space_skipSpace s
  rw [readMembers] at hread
  split at hread
  · cases hread
  · rename_i c t hs
    rw [hs] at hspace
    split at hread
    · rename_i hc
      subst hc
      cases hread
      exact .inl hspace
    · rw [if_neg Bool.false_ne_true] at hread
      split at hread
      · rename_i hc
        subst hc
        have hafter := space_skipSpace t
        split at hread
        · cases hread
        · rename_i d u ht
          rw [ht] at hafter
          split at hread
          · rename_i hd
            subst hd
            obtain ⟨ms, hms⟩ := h.member hread hafter
            exact .inr ⟨t, ms, hspace, hms⟩
          · split at hread
            · cases hread
            · cases hread
      · cases hread

theorem value_succ (h : Sound fuel) {v : Json}
    (hread : readValue (fuel + 1) depth s = .ok (v, rest)) :
    ∃ t raw, Space s t ∧ Value Numeral t raw rest := by
  have hspace := space_skipSpace s
  have hword {letters t : List Char} {w : Json} (hread : (Scan.word letters t).map
      (fun s => (w, s)) = .ok (v, rest)) : t = letters ++ rest := by
    obtain ⟨u, hu, heq⟩ := map_eq_ok_iff.1 hread
    cases heq
    exact Scan.word_eq_ok_iff.1 hu
  have hnumber {negative : Bool} {t : List Char} (hread : (Scan.number negative t).map
      (fun read => (Json.number read.1, read.2)) = .ok (v, rest)) : Unsigned t rest := by
    obtain ⟨⟨n, u⟩, hn, heq⟩ := map_eq_ok_iff.1 hread
    cases heq
    obtain ⟨spelt, hspelt⟩ := Scan.numeral_of_number hn
    exact Scan.unsigned_of_numeral hspelt
  rw [readValue] at hread
  split at hread
  · cases hread
  · rename_i c t hs
    rw [hs] at hspace
    -- one case for each character that a value may start with
    split at hread
    · rename_i hc
      rw [hc, hword hread] at hspace
      exact ⟨_, _, hspace, .null⟩
    split at hread
    · rename_i hc
      rw [hc, hword hread] at hspace
      exact ⟨_, _, hspace, .yes⟩
    split at hread
    · rename_i hc
      rw [hc, hword hread] at hspace
      exact ⟨_, _, hspace, .no⟩
    split at hread
    · rename_i hc
      subst hc
      exact ⟨_, .number (.integer 0), hspace, .number (.minus (hnumber hread))⟩
    split at hread
    · exact ⟨_, .number (.integer 0), hspace, .number (.bare (hnumber hread))⟩
    split at hread
    · rename_i hc
      subst hc
      obtain ⟨⟨text, u⟩, htext, heq⟩ := map_eq_ok_iff.1 hread
      cases heq
      obtain ⟨cs, hcs, -⟩ := Scan.string_eq_ok_iff.1 htext
      exact ⟨_, _, hspace, .text hcs⟩
    split at hread
    · rename_i hc
      subst hc
      split at hread
      · cases hread
      · obtain ⟨⟨items, u⟩, hitems, heq⟩ := map_eq_ok_iff.1 hread
        cases heq
        obtain hclose | ⟨items, hitems⟩ := h.firstItem hitems
        · exact ⟨_, _, hspace, .noItems hclose⟩
        · exact ⟨_, _, hspace, .array hitems⟩
    split at hread
    · rename_i hc
      subst hc
      split at hread
      · cases hread
      · obtain ⟨⟨ms, u⟩, hms, heq⟩ := map_eq_ok_iff.1 hread
        cases heq
        obtain hclose | ⟨ms, hms⟩ := h.firstMember hms
        · exact ⟨_, _, hspace, .noMembers hclose⟩
        · exact ⟨_, _, hspace, .object hms⟩
    · cases hread

end Sound

theorem sound (fuel : Nat) : Sound fuel := by
  induction fuel with
  | zero =>
    -- without fuel nothing is read
    exact
      { value := fun h => nomatch readValue_pos h
        item := fun h => nomatch readItem_eq_ok h
        firstItem := fun h => nomatch readItems_pos h
        moreItems := fun h => nomatch readItems_pos h
        member := fun h => nomatch readMember_eq_ok h
        firstMember := fun h => nomatch readMembers_pos h
        moreMembers := fun h => nomatch readMembers_pos h }
  | succ fuel ih =>
    exact ⟨ih.value_succ, ih.item_succ, ih.firstItem_succ, ih.moreItems_succ, ih.member_succ,
      ih.firstMember_succ, ih.moreMembers_succ⟩

/-! ## Documents -/

theorem depth_le_of_readChars {cs : List Char} {raw v : Json} (h : Document Numeral cs raw)
    (hread : readChars cs = .ok v) : raw.depth ≤ maxDepth := by
  obtain ⟨s, rest, hs, hraw, hrest⟩ := h
  obtain ⟨r, hvalue, -⟩ := readChars_eq_ok_iff.1 hread
  rw [readValue_space hs] at hvalue
  exact (depth_le_of_readValue hraw (stops_of_space hrest) hvalue).2

theorem document_of_readChars {cs : List Char} {v : Json} (hread : readChars cs = .ok v) :
    ∃ raw, Document Numeral cs raw := by
  obtain ⟨rest, hvalue, hrest⟩ := readChars_eq_ok_iff.1 hread
  obtain ⟨t, raw, hs, hraw⟩ := (sound _).value hvalue
  exact ⟨raw, t, rest, hs, hraw, hrest⟩

end CompileSession.Json
