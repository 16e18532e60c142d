import CompileSession.Json.Record
import CompileSession.Proofs.Json.Strings

/-!
# Records read back

A record is written as an object with its fields in the order declared. Whatever blanks stand
between its words, reading it gives the contents of the fields again, as long as no two fields have
the same name.

Results:
1. `readContent_toJson`: the content of one field.
2. `readInto_member`: the member of a field fills its slot.
3. `readRecord_written`: a record, written with any blanks.
4. `readRecord_render` and `readRecord_renderIndented`: the two ways in which records are written.
-/

namespace CompileSession.Json

/-! ## Writing a record -/

/-- The content of a field as a JSON value. -/
def Kind.toJson : (kind : Kind) → kind.Content → Json
  | .text, (s : String) => .text s
  | .boolean, (b : Bool) => .boolean b

/-- The contents of the fields as members, in the order declared. -/
def Row.members : (fields : List Field) → Row fields → Members
  | [], () => []
  | f :: fields, (c, row) => (f.name, f.kind.toJson c) :: Row.members fields row

/-- The blanks that stand in a record: in front of each name, after each colon, and in front of the
brace that ends it. -/
structure Layout where
  lead : List Char
  gap : List Char
  tail : List Char
  blank_lead : lead.all Scan.isSpace = true
  blank_gap : gap.all Scan.isSpace = true
  blank_tail : tail.all Scan.isSpace = true

namespace Layout

/-- No blanks at all. -/
def compact : Layout where
  lead := []
  gap := []
  tail := []
  blank_lead := by decide
  blank_gap := by decide
  blank_tail := by decide

/-- Each member on a line of its own. -/
def indented : Layout where
  lead := newLine 1
  gap := [' ']
  tail := newLine 0
  blank_lead := by decide
  blank_gap := by decide
  blank_tail := by decide

/-- A member, with what follows its colon. -/
def member (l : Layout) (m : String × Json) : List Char :=
  l.lead ++ (renderString m.1 ++ ':' :: (l.gap ++ renderChars m.2))

/-- The members after one, and the brace. -/
def others (l : Layout) : Members → List Char
  | [] => l.tail ++ ['}']
  | m :: ms => ',' :: (l.member m ++ l.others ms)

/-- A record with its members. -/
def object (l : Layout) : Members → List Char
  | [] => '{' :: (l.tail ++ ['}'])
  | m :: ms => '{' :: (l.member m ++ l.others ms)

end Layout

/-- The slots of which the first `n` hold what is in a row, and the others nothing. -/
def Slots.upTo : Nat → (fields : List Field) → Row fields → Slots fields
  | _, [], () => ()
  | 0, _ :: fields, (_, row) => (none, Slots.upTo 0 fields row)
  | n + 1, _ :: fields, (c, row) => (some c, Slots.upTo n fields row)

/-! ## Words -/

namespace RecordLemmas

theorem skipSpace_append {blanks : List Char} (h : blanks.all Scan.isSpace = true)
    (s : List Char) : Scan.skipSpace (blanks ++ s) = Scan.skipSpace s :=
  List.dropWhile_append_of_pos (List.all_eq_true.1 h)

theorem skipSpace_cons {c : Char} (h : Scan.isSpace c = false) (s : List Char) :
    Scan.skipSpace (c :: s) = c :: s := by
  simp [Scan.skipSpace, h]

theorem skipSpace_blanks {blanks : List Char} (h : blanks.all Scan.isSpace = true) {c : Char}
    (hc : Scan.isSpace c = false) (s : List Char) :
    Scan.skipSpace (blanks ++ c :: s) = c :: s := by
  rw [skipSpace_append h, skipSpace_cons hc]

/-- The content of a field is read back. -/
theorem readContent_toJson {blanks : List Char} (h : blanks.all Scan.isSpace = true)
    (kind : Kind) (c : kind.Content) (rest : List Char) :
    readContent kind (blanks ++ (renderChars (kind.toJson c) ++ rest)) = .ok (c, rest) := by
  unfold readContent
  cases kind with
  | text =>
    obtain ⟨s, hwritten, hread⟩ := string_renderString c rest
    have hchars : renderChars (Kind.toJson .text c) ++ rest = '"' :: s := by
      rw [← hwritten]
      simp [Kind.toJson, renderChars]
    rw [hchars, skipSpace_blanks h (by decide)]
    exact hread
  | boolean =>
    cases c with
    | true =>
      have hchars : renderChars (Kind.toJson .boolean true) ++ rest =
          't' :: 'r' :: 'u' :: 'e' :: rest := rfl
      rw [hchars, skipSpace_blanks h (by decide)]
      rfl
    | false =>
      have hchars : renderChars (Kind.toJson .boolean false) ++ rest =
          'f' :: 'a' :: 'l' :: 's' :: 'e' :: rest := rfl
      rw [hchars, skipSpace_blanks h (by decide)]
      rfl

/-! ## Members -/

theorem Slots.upTo_zero : (fields : List Field) → (row : Row fields) →
    Slots.upTo 0 fields row = Slots.empty fields
  | [], () => rfl
  | _ :: fields, (_, row) => congrArg (Prod.mk none) (Slots.upTo_zero fields row)

theorem Slots.complete_upTo : (fields : List Field) → (row : Row fields) →
    Slots.complete fields (Slots.upTo fields.length fields row) = .ok row
  | [], () => rfl
  | _ :: fields, (c, row) => by
    show (Slots.complete fields (Slots.upTo fields.length fields row)).map _ = _
    rw [Slots.complete_upTo fields row]
    rfl

theorem length_members : (fields : List Field) → (row : Row fields) →
    (Row.members fields row).length = fields.length
  | [], () => rfl
  | _ :: fields, (_, row) => congrArg (· + 1) (length_members fields row)

theorem name_mem_of_getElem? : (fields : List Field) → (row : Row fields) → {n : Nat} →
    {m : String × Json} → (Row.members fields row)[n]? = some m → m.1 ∈ fields.map (·.name)
  | [], (), _, _, h => by cases h
  | _ :: _, (_, _), 0, _, h => by
    cases h
    exact List.mem_cons_self
  | _ :: fields, (_, row), _ + 1, _, h => List.mem_cons_of_mem _ (name_mem_of_getElem? fields row h)

theorem colon_cons (s : List Char) : Scan.colon (':' :: s) = .ok s := by
  unfold Scan.colon
  rw [skipSpace_cons (by decide)]
  rfl

/-- A member with the name of the first field without a content fills the slot of that field. -/
theorem readInto_member (l : Layout) (rest : List Char) : (fields : List Field) →
    (row : Row fields) → (fields.map (·.name)).Nodup → {n : Nat} → {m : String × Json} →
    (Row.members fields row)[n]? = some m →
    readInto m.1 (':' :: (l.gap ++ (renderChars m.2 ++ rest))) fields (Slots.upTo n fields row) =
      .ok (Slots.upTo (n + 1) fields row, rest)
  | [], (), _, _, _, h => by cases h
  | f :: fields, (c, row), _, 0, _, h => by
    cases h
    unfold readInto
    simp only [Slots.upTo, if_true, Option.isSome_none, Bool.false_eq_true, if_false, colon_cons,
      readContent_toJson l.blank_gap]
    rfl
  | f :: fields, (c, row), hnodup, n + 1, m, h => by
    obtain ⟨hnew, hnodup⟩ := List.nodup_cons.1 hnodup
    have hmem := name_mem_of_getElem? fields row h
    have hne : f.name ≠ m.1 := fun heq => hnew (show f.name ∈ _ from heq ▸ hmem)
    have ih := readInto_member l rest fields row hnodup h
    unfold readInto
    simp only [Slots.upTo, if_neg hne, ih]
    rfl

variable {fields : List Field} {row : Row fields}

/-- Reading goes on after one member. -/
theorem member_append (l : Layout) (m : String × Json) (s : List Char) :
    ∃ q, l.member m ++ s = l.lead ++ '"' :: q ∧
      Scan.string q = .ok (m.1, ':' :: (l.gap ++ (renderChars m.2 ++ s))) := by
  obtain ⟨q, hwritten, hread⟩ :=
    string_renderString m.1 (':' :: (l.gap ++ (renderChars m.2 ++ s)))
  refine ⟨q, ?_, hread⟩
  rw [← hwritten]
  simp [Layout.member]

/-- The members after the first `n` fill the slots of theirs, one after the other. -/
theorem readFields_others (l : Layout) (hnodup : (fields.map (·.name)).Nodup) (rest : List Char)
    (ms : Members) : ∀ {n fuel : Nat}, (Row.members fields row).drop n = ms → ms.length < fuel →
      readFields fuel fields (Slots.upTo n fields row) false (l.others ms ++ rest) =
        .ok (Slots.upTo (n + ms.length) fields row, rest) := by
  induction ms with
  | nil =>
    intro n fuel _ hfuel
    obtain ⟨fuel, rfl⟩ := Nat.exists_eq_succ_of_ne_zero (Nat.ne_of_gt hfuel)
    have hend : Scan.skipSpace (l.others [] ++ rest) = '}' :: rest := by
      show Scan.skipSpace ((l.tail ++ ['}']) ++ rest) = _
      rw [List.append_assoc]
      exact skipSpace_blanks l.blank_tail (by decide) rest
    unfold readFields
    simp only [hend, if_true]
    rfl
  | cons m ms ih =>
    intro n fuel hdrop hfuel
    obtain ⟨fuel, rfl⟩ := Nat.exists_eq_succ_of_ne_zero (Nat.ne_of_gt (Nat.zero_lt_of_lt hfuel))
    have hm : (Row.members fields row)[n]? = some m := by
      rw [← List.head?_drop, hdrop]
      rfl
    have hrest : (Row.members fields row).drop (n + 1) = ms := by
      rw [← List.tail_drop, hdrop]
      rfl
    obtain ⟨q, hwritten, hstring⟩ := member_append l m (l.others ms ++ rest)
    have hcomma : Scan.skipSpace (l.others (m :: ms) ++ rest) = ',' :: (l.lead ++ '"' :: q) := by
      rw [← hwritten]
      show Scan.skipSpace (',' :: (l.member m ++ l.others ms) ++ rest) = _
      rw [List.cons_append, skipSpace_cons (by decide), List.append_assoc]
    have hquote : Scan.skipSpace (l.lead ++ '"' :: q) = '"' :: q :=
      skipSpace_blanks l.blank_lead (by decide) q
    -- the member fills the next slot, and the rest those after it
    have hfilled := readInto_member l (l.others ms ++ rest) fields row hnodup hm
    have hlater := ih hrest (Nat.lt_of_succ_lt_succ hfuel)
    unfold readFields
    simp only [hcomma, Char.reduceEq, if_false, if_true, Bool.false_eq_true, hquote, hstring,
      hfilled, hlater]
    rw [List.length_cons, Nat.add_right_comm, Nat.add_assoc]

theorem length_le_others (l : Layout) (ms : Members) : ms.length < (l.others ms).length := by
  induction ms with
  | nil => simp [Layout.others]
  | cons m ms ih =>
    show ms.length + 1 < (l.member m ++ l.others ms).length + 1
    rw [List.length_append]
    omega

/-- The members after the opening brace fill all slots. -/
theorem readFields_object (l : Layout) (hnodup : (fields.map (·.name)).Nodup) (row : Row fields)
    (rest : List Char) :
    ∃ s, l.object (Row.members fields row) ++ rest = '{' :: s ∧
      readFields (s.length + 1) fields (.empty fields) true s =
        .ok (Slots.upTo fields.length fields row, rest) := by
  rw [← Slots.upTo_zero fields row]
  cases hms : Row.members fields row with
  | nil =>
    have hlength : fields.length = 0 := by rw [← length_members fields row, hms]; rfl
    refine ⟨l.tail ++ '}' :: rest, by simp [Layout.object], ?_⟩
    unfold readFields
    simp only [skipSpace_blanks l.blank_tail (show Scan.isSpace '}' = false by decide), if_true]
    rw [hlength]
  | cons m ms =>
    obtain ⟨q, hwritten, hstring⟩ := member_append l m (l.others ms ++ rest)
    refine ⟨l.lead ++ '"' :: q, ?_, ?_⟩
    · rw [← hwritten]
      simp [Layout.object]
    -- no comma stands in front of the first member, so it is read apart from the others
    have hm : (Row.members fields row)[0]? = some m := by rw [hms]; rfl
    have hfilled := readInto_member l (l.others ms ++ rest) fields row hnodup hm
    have hfuel : ms.length < (l.lead ++ '"' :: q).length := by
      have := length_le_others l ms
      rw [← hwritten, List.length_append, List.length_append]
      omega
    have hdrop : (Row.members fields row).drop (0 + 1) = ms := by rw [hms]; rfl
    have hlater := readFields_others l hnodup rest ms hdrop hfuel
    unfold readFields
    simp only [skipSpace_blanks l.blank_lead (show Scan.isSpace '"' = false by decide),
      Char.reduceEq, if_false, if_true, hstring, hfilled, hlater]
    rw [← length_members fields row, hms, List.length_cons, Nat.zero_add, Nat.add_comm]

end RecordLemmas

open RecordLemmas

/-- A record that was written with any blanks, in between and at the end, is read back. -/
theorem readRecord_written (l : Layout) (shape : Shape)
    (hnodup : (shape.fields.map (·.name)).Nodup) (row : Row shape.fields) {blanks : List Char}
    (hblank : blanks.all Scan.isSpace = true) :
    readRecord shape (String.ofList (l.object (Row.members shape.fields row) ++ blanks)) =
      .ok row := by
  obtain ⟨s, hwritten, hread⟩ := readFields_object l hnodup row blanks
  have hended : ended blanks = .ok () := by
    have hnone := skipSpace_append hblank []
    rw [List.append_nil] at hnone
    unfold ended
    rw [hnone]
    rfl
  have hshape : readShape shape ('{' :: s) = .ok (row, blanks) := by
    unfold readShape
    rw [skipSpace_cons (by decide)]
    simp only [Char.reduceEq, if_false, if_true, hread, Slots.complete_upTo]
  rw [readRecord, String.toList_ofList, hwritten, readRecordChars, hshape]
  simp only [hended]
  rfl

theorem renderMembers_compact (m : String × Json) (ms : Members) :
    renderMembers (m :: ms) ++ ['}'] = Layout.compact.member m ++ Layout.compact.others ms := by
  induction ms generalizing m with
  | nil => simp [renderMembers, Layout.member, Layout.others, Layout.compact]
  | cons next ms ih =>
    simp only [renderMembers, List.append_assoc, List.cons_append, Layout.others]
    rw [ih]
    simp [Layout.member, Layout.compact]

theorem indentMembers_indented (m : String × Json) (ms : Members)
    (hflat : ∀ member ∈ m :: ms, ∀ level, indentChars level member.2 = renderChars member.2) :
    newLine 1 ++ (indentMembers 1 (m :: ms) ++ (newLine 0 ++ ['}'])) =
      Layout.indented.member m ++ Layout.indented.others ms := by
  induction ms generalizing m with
  | nil =>
    have hm := hflat m List.mem_cons_self 1
    simp [indentMembers, hm, Layout.member, Layout.others, Layout.indented]
  | cons next ms ih =>
    have hm := hflat m List.mem_cons_self 1
    have hlater := ih next fun member hmem => hflat member (List.mem_cons_of_mem _ hmem)
    simp only [indentMembers, hm, List.append_assoc, List.cons_append, Layout.others]
    rw [hlater]
    simp [Layout.member, Layout.indented]

/-- The content of a field is written alike in every place. -/
theorem indentChars_of_mem : (fields : List Field) → (row : Row fields) →
    ∀ m ∈ Row.members fields row, ∀ level, indentChars level m.2 = renderChars m.2
  | [], (), _, hm, _ => absurd hm List.not_mem_nil
  | f :: fields, (c, row), m, hm, level => by
    rcases List.mem_cons.1 hm with rfl | hm
    · obtain ⟨name, kind⟩ := f
      cases kind with
      | text => simp [Kind.toJson, indentChars, renderChars]
      | boolean => cases c <;> simp [Kind.toJson, indentChars, renderChars]
    · exact indentChars_of_mem fields row m hm level

/-- A record written without blanks is read back. -/
theorem readRecord_render (shape : Shape) (hnodup : (shape.fields.map (·.name)).Nodup)
    (row : Row shape.fields) :
    readRecord shape (Json.object (Row.members shape.fields row)).render = .ok row := by
  have hlayout (ms : Members) : renderChars (.object ms) = Layout.compact.object ms ++ [] := by
    cases ms with
    | nil => simp [renderChars, renderMembers, Layout.object, Layout.compact]
    | cons m ms =>
      rw [renderChars, List.cons_append, renderMembers_compact, List.append_nil]
      rfl
  rw [render, hlayout]
  exact readRecord_written .compact shape hnodup row rfl

/-- A record written over several lines is read back, whatever blanks come after it. -/
theorem readRecord_renderIndented (shape : Shape) (hnodup : (shape.fields.map (·.name)).Nodup)
    (row : Row shape.fields) {blanks : String}
    (hblank : blanks.toList.all Scan.isSpace = true) :
    readRecord shape ((Json.object (Row.members shape.fields row)).renderIndented ++ blanks) =
      .ok row := by
  have hlayout : ∃ l : Layout, indentChars 0 (.object (Row.members shape.fields row)) =
      l.object (Row.members shape.fields row) := by
    have hflat := indentChars_of_mem shape.fields row
    cases hms : Row.members shape.fields row with
    | nil => exact ⟨.compact, by simp [indentChars, Layout.object, Layout.compact]⟩
    | cons m ms =>
      rw [hms] at hflat
      refine ⟨.indented, ?_⟩
      show _ = '{' :: (Layout.indented.member m ++ Layout.indented.others ms)
      rw [← indentMembers_indented m ms hflat]
      simp [indentChars]
  obtain ⟨l, hl⟩ := hlayout
  rw [renderIndented, hl, ← String.ofList_toList (s := blanks), ← String.ofList_append]
  exact readRecord_written l shape hnodup row hblank

end CompileSession.Json
