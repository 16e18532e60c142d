import CompileSession.Proofs.Json.Fields
import CompileSession.Proofs.Json.Rendering

/-!
# Texts that records are read from

A record is read from an object in which each of its fields stands once among any members, and from
an array of the contents of its fields in the order declared. No other text gives one.

Results:
1. `readInOrder_array`: an array.
2. `readShape_eq_ok_iff`: a record in front of other characters.
3. `readRecord_eq_ok_iff`: a record that is a whole text.
4. `spellsRecord_render`: a record written as an object among other members.
-/

namespace CompileSession.Json

open Grammar

/-! ## The items of an array -/

namespace Grammar

/-- Values that follow another one in an array, each after a comma, and the bracket that closes
it. -/
inductive Others : List Char → List Json → List Char → Prop where
  | close {s rest : List Char} : Space s (']' :: rest) → Others s [] rest
  | comma {items : List Json} {s w rest : List Char} : Space s (',' :: w) →
      Items Numeral w items (']' :: rest) → Others s items rest

theorem items_cons_iff {v : Json} {items : List Json} {s rest : List Char} :
    Items Numeral s (v :: items) (']' :: rest) ↔
      ∃ t u, Space s t ∧ Value Numeral t v u ∧ Others u items rest := by
  constructor
  · intro h
    cases h with
    | one hs hv hu => exact ⟨_, _, hs, hv, .close hu⟩
    | more hs hv hu hw => exact ⟨_, _, hs, hv, .comma hu hw⟩
  · rintro ⟨t, u, hs, hv, hu | ⟨hu, hw⟩⟩
    · exact .one hs hv hu
    · exact .more hs hv hu hw

end Grammar

theorem closeArray_eq_ok_iff {s rest : List Char} :
    closeArray s = .ok rest ↔ Space s (']' :: rest) := by
  constructor
  · intro h
    have hspace := space_skipSpace s
    unfold closeArray at h
    split at h
    · cases h
    · rename_i c t hs
      rw [hs] at hspace
      split at h
      · rename_i hc
        subst hc
        cases h
        exact hspace
      · split at h
        · split at h
          · cases h
          · cases h
        · cases h
  · intro h
    unfold closeArray
    rw [h.skipSpace_cons (by decide)]
    rfl

/-- The contents of the fields. -/
def Row.values (fields : List Field) (row : Row fields) : List Json :=
  (Row.members fields row).map (·.2)

/-- Reads the next field of an array and those that follow it. -/
def readNext (shape : Shape) (count : Nat) (s : List Char) (f : Field) (fields : List Field) :
    Scan (Row (f :: fields)) :=
  match readContent f.kind s with
  | .error e => .error e
  | .ok (c, s) => (readInOrder shape (count + 1) s fields).map fun (row, s) => ((c, row), s)

section
variable {shape : Shape} {count : Nat} {f : Field} {fields : List Field} {s t rest : List Char}

theorem readNext_eq_ok_iff {c : f.kind.Content} {row : Row fields} :
    readNext shape count s f fields = .ok ((c, row), t) ↔
      ∃ u v, Space s u ∧ Value Numeral u (f.kind.toJson c) v ∧
        readInOrder shape (count + 1) v fields = .ok (row, t) := by
  unfold readNext
  constructor
  · intro h
    split at h
    · cases h
    · rename_i c' v hread
      obtain ⟨⟨row', t'⟩, hlater, heq⟩ := map_eq_ok_iff.1 h
      cases heq
      obtain ⟨u, hs, hu⟩ := readContent_eq_ok_iff.1 hread
      exact ⟨u, v, hs, hu, hlater⟩
  · rintro ⟨u, v, hs, hu, hlater⟩
    simp only [readContent_eq_ok_iff.2 ⟨u, hs, hu⟩, hlater]
    rfl

/-- Where a field is read, no bracket stands. -/
theorem front_of_readNext {r : Row (f :: fields) × List Char}
    (h : readNext shape count s f fields = .ok r) :
    ∃ d u, Scan.skipSpace s = d :: u ∧ d ≠ ']' := by
  obtain ⟨⟨c, row⟩, t⟩ := r
  obtain ⟨u, v, hs, hu, -⟩ := readNext_eq_ok_iff.1 h
  obtain ⟨d, u, rfl, hspace, hbracket⟩ := hu.first id
  exact ⟨d, u, hs.skipSpace_cons hspace, hbracket⟩

theorem readNext_skipSpace :
    readNext shape count (Scan.skipSpace s) f fields = readNext shape count s f fields := by
  unfold readNext
  rw [← readContent_space (space_skipSpace s)]

theorem readInOrder_zero_iff {r : Row (f :: fields) × List Char} :
    readInOrder shape 0 s (f :: fields) = .ok r ↔ readNext shape 0 s f fields = .ok r := by
  rw [readInOrder, ← readNext_skipSpace]
  constructor
  · intro h
    split at h
    · cases h
    · rename_i c t hs
      split at h
      · cases h
      · rw [hs]
        exact h
  · intro h
    rw [readNext_skipSpace] at h
    obtain ⟨d, u, hs, hbracket⟩ := front_of_readNext h
    rw [← readNext_skipSpace, hs] at h
    simp only [hs, if_neg hbracket, if_true]
    exact h

theorem readInOrder_succ_iff {r : Row (f :: fields) × List Char} :
    readInOrder shape (count + 1) s (f :: fields) = .ok r ↔
      ∃ w, Space s (',' :: w) ∧ readNext shape (count + 1) w f fields = .ok r := by
  rw [readInOrder]
  constructor
  · intro h
    have hspace := space_skipSpace s
    split at h
    · cases h
    · rename_i c w hs
      rw [hs] at hspace
      split at h
      · cases h
      · rw [if_neg (Nat.succ_ne_zero count)] at h
        split at h
        · rename_i hc
          refine ⟨w, hc ▸ hspace, ?_⟩
          rw [← readNext_skipSpace]
          split at h
          · cases h
          · rename_i d u hw
            split at h
            · cases h
            · rw [hw]
              exact h
        · cases h
  · rintro ⟨w, hcomma, h⟩
    obtain ⟨d, u, hw, hbracket⟩ := front_of_readNext h
    rw [← readNext_skipSpace, hw] at h
    simp only [hcomma.skipSpace_cons (show Scan.isSpace ',' = false by decide), Char.reduceEq,
      Nat.succ_ne_zero, hw, hbracket, if_false, if_true]
    exact h

end

/-- After the first field of an array the others are read up to its bracket. -/
theorem readInOrder_others {shape : Shape} {rest : List Char} : {fields : List Field} →
    {row : Row fields} → {count : Nat} → {s : List Char} →
    ((∃ t, readInOrder shape (count + 1) s fields = .ok (row, t) ∧ closeArray t = .ok rest) ↔
      Others s (Row.values fields row) rest)
  | [], (), count, s => by
    constructor
    · rintro ⟨t, hread, hclose⟩
      rw [readInOrder] at hread
      cases hread
      exact .close (closeArray_eq_ok_iff.1 hclose)
    · rintro (hclose | ⟨-, hitems⟩)
      · exact ⟨s, by rw [readInOrder], closeArray_eq_ok_iff.2 hclose⟩
      · cases hitems
  | f :: fields, (c, row), count, s => by
    constructor
    · rintro ⟨t, hread, hclose⟩
      obtain ⟨w, hcomma, hnext⟩ := readInOrder_succ_iff.1 hread
      obtain ⟨u, v, hw, hu, hlater⟩ := readNext_eq_ok_iff.1 hnext
      have hothers := readInOrder_others.1 ⟨t, hlater, hclose⟩
      exact .comma hcomma (items_cons_iff.2 ⟨u, v, hw, hu, hothers⟩)
    · rintro (_ | ⟨hcomma, hitems⟩)
      obtain ⟨u, v, hw, hu, hothers⟩ := items_cons_iff.1 hitems
      obtain ⟨t, hlater, hclose⟩ := readInOrder_others.2 hothers
      have hnext := readNext_eq_ok_iff.2 ⟨u, v, hw, hu, hlater⟩
      exact ⟨t, readInOrder_succ_iff.2 ⟨_, hcomma, hnext⟩, hclose⟩

/-- The fields of an array are read if and only if its items are their contents. -/
theorem readInOrder_array {shape : Shape} {s rest : List Char} : {fields : List Field} →
    {row : Row fields} →
    ((∃ t, readInOrder shape 0 s fields = .ok (row, t) ∧ closeArray t = .ok rest) ↔
      Value Numeral ('[' :: s) (.array (Row.values fields row)) rest)
  | [], () => by
    constructor
    · rintro ⟨t, hread, hclose⟩
      rw [readInOrder] at hread
      cases hread
      exact .noItems (closeArray_eq_ok_iff.1 hclose)
    · intro h
      cases h with
      | noItems hclose => exact ⟨s, by rw [readInOrder], closeArray_eq_ok_iff.2 hclose⟩
      | array hitems => cases hitems
  | f :: fields, (c, row) => by
    constructor
    · rintro ⟨t, hread, hclose⟩
      obtain ⟨u, v, hs, hu, hlater⟩ := readNext_eq_ok_iff.1 (readInOrder_zero_iff.1 hread)
      have hothers := readInOrder_others.1 ⟨t, hlater, hclose⟩
      exact .array (items_cons_iff.2 ⟨u, v, hs, hu, hothers⟩)
    · intro h
      cases h with
      | array hitems =>
        obtain ⟨u, v, hs, hu, hothers⟩ := items_cons_iff.1 hitems
        obtain ⟨t, hlater, hclose⟩ := readInOrder_others.2 hothers
        have hnext := readNext_eq_ok_iff.2 ⟨u, v, hs, hu, hlater⟩
        exact ⟨t, readInOrder_zero_iff.2 hnext, hclose⟩

/-! ## Records -/

/-- The characters spell a record: an object in which each field stands once among any members, or
an array of the contents of the fields in the order declared. -/
def SpellsRecord (shape : Shape) (cs : List Char) (row : Row shape.fields) : Prop :=
  (∃ entries, ObjectDocument cs entries ∧
    ∀ m ∈ Row.members shape.fields row, Once m.1 m.2 entries) ∨
  Document Numeral cs (.array (Row.values shape.fields row))

theorem Grammar.Value.array_front {items : List Json} {s rest : List Char}
    (h : Value Numeral s (.array items) rest) : ∃ t, s = '[' :: t := by
  cases h with
  | noItems | array => exact ⟨_, rfl⟩

/-- A record is read from the characters in front. -/
theorem readShape_eq_ok_iff {shape : Shape} (hnodup : (shape.fields.map (·.name)).Nodup)
    {row : Row shape.fields} {s rest : List Char} : readShape shape s = .ok (row, rest) ↔
      (∃ t entries, Space s ('{' :: t) ∧ Body t entries rest ∧
        ∀ m ∈ Row.members shape.fields row, Once m.1 m.2 entries) ∨
      ∃ t, Space s ('[' :: t) ∧
        Value Numeral ('[' :: t) (.array (Row.values shape.fields row)) rest := by
  unfold readShape
  constructor
  · intro h
    have hspace := space_skipSpace s
    split at h
    · cases h
    · rename_i c t hs
      rw [hs] at hspace
      split at h
      · rename_i hc
        subst hc
        split at h
        · cases h
        · rename_i row' u hread
          obtain ⟨rest', hclose, heq⟩ := map_eq_ok_iff.1 h
          cases heq
          exact .inr ⟨t, hspace, readInOrder_array.1 ⟨u, hread, hclose⟩⟩
      split at h
      · rename_i hc
        subst hc
        split at h
        · cases h
        · rename_i slots u hread
          split at h
          · rename_i row' hrow
            cases h
            obtain ⟨entries, hbody, hfills⟩ := body_of_readFields hnodup hread
            exact .inl ⟨t, entries, hspace, hbody, exists_fills_iff.1 ⟨slots, hfills, hrow⟩⟩
          · cases h
      · exact absurd h (wrongKind_ne_ok _ _ _)
  · rintro (⟨t, entries, hs, hbody, honce⟩ | ⟨t, hs, hv⟩)
    · obtain ⟨slots, hfills, hrow⟩ := exists_fills_iff.2 honce
      have hread := readFields_of_body hnodup hbody hfills (Nat.lt_succ_of_le hbody.length_le)
      rw [hs.skipSpace_cons (by decide)]
      simp only [Char.reduceEq, if_false, if_true, hread, hrow]
    · obtain ⟨u, hread, hclose⟩ : ∃ u, readInOrder shape 0 t shape.fields = .ok (row, u) ∧
          closeArray u = .ok rest := readInOrder_array.2 hv
      rw [hs.skipSpace_cons (by decide)]
      simp only [if_true, hread, hclose]
      rfl

theorem readRecordChars_eq_ok_iff {shape : Shape} {row : Row shape.fields} {cs : List Char} :
    readRecordChars shape cs = .ok row ↔
      ∃ rest, readShape shape cs = .ok (row, rest) ∧ Space rest [] := by
  unfold readRecordChars
  constructor
  · intro h
    split at h
    · cases h
    · rename_i row' rest hread
      obtain ⟨⟨⟩, hended, rfl⟩ := map_eq_ok_iff.1 h
      exact ⟨rest, hread, ended_eq_ok_iff.1 hended⟩
  · rintro ⟨rest, hread, hrest⟩
    simp only [hread, ended_eq_ok_iff.2 hrest]
    rfl

/-- A record is read from a text if and only if the text spells it. -/
theorem readRecord_eq_ok_iff {shape : Shape} (hnodup : (shape.fields.map (·.name)).Nodup)
    {row : Row shape.fields} {text : String} :
    readRecord shape text = .ok row ↔ SpellsRecord shape text.toList row := by
  rw [readRecord, mapError_eq_ok_iff, readRecordChars_eq_ok_iff]
  constructor
  · rintro ⟨rest, hread, hrest⟩
    obtain ⟨t, entries, hs, hbody, honce⟩ | ⟨t, hs, hv⟩ := (readShape_eq_ok_iff hnodup).1 hread
    · exact .inl ⟨entries, ⟨t, rest, hs, hbody, hrest⟩, honce⟩
    · exact .inr ⟨_, rest, hs, hv, hrest⟩
  · rintro (⟨entries, ⟨t, rest, hs, hbody, hrest⟩, honce⟩ | ⟨s, rest, hs, hv, hrest⟩)
    · exact ⟨rest, (readShape_eq_ok_iff hnodup).2 (.inl ⟨t, entries, hs, hbody, honce⟩), hrest⟩
    · obtain ⟨t, rfl⟩ := hv.array_front
      exact ⟨rest, (readShape_eq_ok_iff hnodup).2 (.inr ⟨t, hs, hv⟩), hrest⟩

/-! ## Objects that were written -/

namespace Grammar

variable {num : List Char → Number → List Char → Prop}

mutual

/-- What a value is spelled by does not depend on what its numerals stand for. -/
theorem Value.numeral (hnum : OfNumerals num) {s rest : List Char} {v : Json} :
    Value num s v rest → Value Numeral s v rest
  | .null => .null
  | .yes => .yes
  | .no => .no
  | .number h => .number (hnum h)
  | .text h => .text h
  | .noItems h => .noItems h
  | .array h => .array (Items.numeral hnum h)
  | .noMembers h => .noMembers h
  | .object h => .object (Members.numeral hnum h)

theorem Items.numeral (hnum : OfNumerals num) {s rest : List Char} {items : List Json} :
    Items num s items rest → Items Numeral s items rest
  | .one hs hv hu => .one hs (Value.numeral hnum hv) hu
  | .more hs hv hu hw => .more hs (Value.numeral hnum hv) hu (Items.numeral hnum hw)

theorem Members.numeral (hnum : OfNumerals num) {s rest : List Char} {ms : Json.Members} :
    Members num s ms rest → Members Numeral s ms rest
  | .one hname hs hv hu => .one hname hs (Value.numeral hnum hv) hu
  | .more hname hs hv hu hw => .more hname hs (Value.numeral hnum hv) hu (Members.numeral hnum hw)

end

end Grammar

theorem canonical_of_mem {ms : Members} (h : CanonicalMembers ms) {m : String × Json}
    (hm : m ∈ ms) : m.2.Canonical := by
  induction ms with
  | nil => cases hm
  | cons first ms ih =>
    rcases List.mem_cons.1 hm with rfl | hm
    · exact h.1
    · exact ih h.2 hm

/-- Members are written with the characters of their values. -/
theorem entries_renderMembers (m : String × Json) (ms : List (String × Json))
    (h : CanonicalMembers (m :: ms)) (rest : List Char) :
    Entries (renderMembers (m :: ms) ++ rest) ((m :: ms).map fun m => (m.1, renderChars m.2))
      rest := by
  induction ms generalizing m with
  | nil =>
    rw [renderMembers, List.append_assoc]
    exact .one (name_renderString m.1 _) (.refl _)
      ((value_renderChars m.2 h.1 rest).loose ofNumerals_plain) (.refl _)
  | cons next ms ih =>
    rw [renderMembers]
    · simp only [List.append_assoc, List.cons_append]
      exact .more (name_renderString m.1 _) (.refl _)
        ((value_renderChars m.2 h.1 _).loose ofNumerals_plain) (.refl _) (ih next h.2)
    · exact List.cons_ne_nil next ms

theorem objectDocument_render {ms : Members} (h : CanonicalMembers ms) :
    ObjectDocument (Json.object ms).render.toList (ms.map fun m => (m.1, renderChars m.2)) := by
  refine ⟨renderMembers ms ++ ['}'], [], ?_, ?_, .refl _⟩
  · rw [render, String.toList_ofList, renderChars]
    exact .refl _
  · cases ms with
    | nil => exact .empty (.refl _)
    | cons m ms => exact .of (entries_renderMembers m ms h _)

/-- An object that was written with the fields of a record among its members spells the record. -/
theorem spellsRecord_render {shape : Shape} {row : Row shape.fields} {ms : Members}
    (hcanonical : CanonicalMembers ms) (hnodup : (ms.map Prod.fst).Nodup)
    (hfields : ∀ m ∈ Row.members shape.fields row, m ∈ ms) :
    SpellsRecord shape (Json.object ms).render.toList row := by
  refine .inl ⟨_, objectDocument_render hcanonical, fun m hm => ?_⟩
  have hnames : ((ms.map fun m => (m.1, renderChars m.2)).map Prod.fst).Nodup := by
    rwa [List.map_map]
  have hvalue : Value Numeral (renderChars m.2) m.2 [] := by
    have h := value_renderChars m.2 (canonical_of_mem hcanonical (hfields m hm)) []
    rw [List.append_nil] at h
    exact h.numeral ofNumerals_plain
  exact once_of_mem hnames (List.mem_map.2 ⟨m, hfields m hm, rfl⟩) hvalue

end CompileSession.Json
