import CompileSession.Response.Decode
import CompileSession.Proofs.Except
import CompileSession.Proofs.Text.Whole

/-!
# Which answers are understood

The grammar of the answers of the service, written down without the decoder: positions, records in
their two shapes, and the payload that each tag promises. The decoder understands the values that
the grammar derives, with the outcome that it gives them, and no others; every other value is
refused for the first thing wrong with it.

Results:
1. `Wire.position_eq_ok_iff`: the positions.
2. `Wire.record_eq_ok_iff`: the records, by recursion over the value.
3. `Decoded.ofJson_understands`: the answers, and what becomes of the others.
-/

namespace CompileSession

namespace Wire

/-! ## Fields -/

/-- A value that holds a position, or none. -/
inductive IsPosition : Json → Option Int → Prop where
  | null : IsPosition .null none
  | number {i : Int} : Text.Int64 i → IsPosition (.number (.integer i)) (some i)
  | blank {s : String} : (∀ c ∈ s.toList, Text.isBlank c) → IsPosition (.text s) none
  | digits {s : String} {lead cs tail : List Char} {i : Int} :
      s.toList = lead ++ (cs ++ tail) → (∀ c ∈ lead, Text.isBlank c) →
      (∀ c ∈ tail, Text.isBlank c) → Text.Denotes cs i → Text.Int64 i →
      IsPosition (.text s) (some i)

/-- A value that holds a text, or none. -/
inductive IsText : Json → Option String → Prop where
  | null : IsText .null none
  | text {s : String} : IsText (.text s) (some s)

/-- A field that holds what `P` makes of its value, or nothing if it is left out. -/
inductive Field {α : Type} (P : Json → Option α → Prop) : Option Json → Option α → Prop where
  | absent : Field P none none
  | present {v : Json} {a : Option α} : P v a → Field P (some v) a

theorem positionText_eq_ok_iff {s : String} {p : Option Int} :
    positionText s = .ok p ↔ IsPosition (.text s) p := by
  constructor
  · intro h
    obtain ⟨lead, tail, hs, hlead, htail⟩ := Text.eq_blanks_trim s.toList
    unfold positionText at h
    split at h
    · rename_i hnone
      cases h
      rw [hnone, List.nil_append] at hs
      refine .blank fun c hc => ?_
      rw [hs, List.mem_append] at hc
      exact hc.elim (hlead c) (htail c)
    · split at h
      · rename_i i hi
        cases h
        obtain ⟨hdenotes, hfits⟩ := Text.int64?_eq_some_iff.1 hi
        exact .digits hs hlead htail hdenotes hfits
      · cases h
  · intro h
    cases h with
    | blank hblank =>
      unfold positionText
      rw [Text.trim_eq_nil_of_all hblank]
    | digits hs hlead htail hdenotes hfits =>
      unfold positionText
      rw [hs, Text.trim_blanks hlead htail hdenotes.not_blank]
      split
      · exact absurd rfl hdenotes.ne_nil
      · rw [Text.int64?_eq_some_iff.2 ⟨hdenotes, hfits⟩]

theorem position_eq_ok_iff {o : Option Json} {p : Option Int} :
    position o = .ok p ↔ Field IsPosition o p := by
  constructor
  · intro h
    unfold position at h
    split at h
    · cases h
      exact .absent
    · cases h
      exact .present .null
    · split at h
      · rename_i hfits
        cases h
        exact .present (.number (Text.fitsInt64_iff.1 hfits))
      · cases h
    · exact .present (positionText_eq_ok_iff.1 h)
    · cases h
  · rintro (- | (- | hfits | hblank | ⟨hs, hlead, htail, hdenotes, hfits⟩))
    · rfl
    · rfl
    · exact if_pos (Text.fitsInt64_iff.2 hfits)
    · exact positionText_eq_ok_iff.2 (.blank hblank)
    · exact positionText_eq_ok_iff.2 (.digits hs hlead htail hdenotes hfits)

theorem optionalText_eq_ok_iff {o : Option Json} {t : Option String} :
    optionalText o = .ok t ↔ Field IsText o t := by
  constructor
  · intro h
    unfold optionalText at h
    split at h
    · cases h
      exact .absent
    · cases h
      exact .present .null
    · rename_i v hnull
      cases v with
      | text s =>
        cases h
        exact .present .text
      | _ => cases h
  · rintro (- | (- | -)) <;> rfl

theorem requiredText_eq_ok_iff {name s : String} {o : Option Json} :
    requiredText name o = .ok s ↔ o = some (.text s) := by
  cases o with
  | none => simp [requiredText]
  | some v => cases v <;> simp [requiredText, text, refuse]

/-! ## Records -/

/-- The fields of a record in the order in which an array holds them. -/
def fieldNames : List String :=
  ["text", "line", "start", "end", "counterexample", "filename", "context"]

/-- The members that a value gives to a record: those of an object, or up to seven items of an
array under the names of the fields. -/
def fields? : Json → Option Json.Members
  | .object members => some members
  | .array items =>
    if 1 ≤ items.length ∧ items.length ≤ 7 then some (fieldNames.zip items) else none
  | _ => none

/-- The members `ms` hold the fields of a record, apart from its context. -/
structure HasFields (ms : Json.Members) (r : Record) : Prop where
  text : Json.get? "text" ms = some (.text r.text)
  line : Field IsPosition (Json.get? "line" ms) r.line
  start : Field IsPosition (Json.get? "start" ms) r.start
  last : Field IsPosition (Json.get? "end" ms) r.last
  counterexample : Field IsText (Json.get? "counterexample" ms) r.counterexample
  filename : Field IsText (Json.get? "filename" ms) r.filename

mutual

/-- A value that holds a record. -/
inductive IsRecord : Json → Record → Prop where
  | of {v : Json} {ms : Json.Members} {r : Record} : fields? v = some ms → HasFields ms r →
      IsContext (Json.get? "context" ms) r.context → IsRecord v r

/-- A field that holds the records of the context, or none if it is left out. -/
inductive IsContext : Option Json → List Record → Prop where
  | absent : IsContext none []
  | present {items : List Json} {rs : List Record} : AreRecords items rs →
      IsContext (some (.array items)) rs

/-- Values that hold a record each. -/
inductive AreRecords : List Json → List Record → Prop where
  | nil : AreRecords [] []
  | cons {item : Json} {items : List Json} {r : Record} {rs : List Record} : IsRecord item r →
      AreRecords items rs → AreRecords (item :: items) (r :: rs)

end

theorem isRecord_iff {v : Json} {r : Record} :
    IsRecord v r ↔ ∃ ms, fields? v = some ms ∧ HasFields ms r ∧
      IsContext (Json.get? "context" ms) r.context := by
  constructor
  · rintro ⟨hv, hfields, hcontext⟩
    exact ⟨_, hv, hfields, hcontext⟩
  · rintro ⟨ms, hv, hfields, hcontext⟩
    exact .of hv hfields hcontext

theorem isContext_none_iff {rs : List Record} : IsContext none rs ↔ rs = [] := by
  constructor
  · rintro ⟨⟩
    rfl
  · rintro rfl
    exact .absent

theorem isContext_array_iff {items : List Json} {rs : List Record} :
    IsContext (some (.array items)) rs ↔ AreRecords items rs := by
  constructor
  · rintro (- | h)
    exact h
  · exact .present

/-- The `i`-th item of an array goes by the `i`-th of different names. -/
theorem get?_zip {names : List String} (hnodup : names.Nodup) (items : List Json) {i : Nat}
    (hi : i < names.length) : Json.get? names[i] (names.zip items) = items[i]? := by
  induction names generalizing items i with
  | nil => cases hi
  | cons name names ih =>
    obtain ⟨hnew, hnodup⟩ := List.nodup_cons.1 hnodup
    cases items with
    | nil => rfl
    | cons item items =>
      cases i with
      | zero => simp [Json.get?]
      | succ i =>
        have hi' : i < names.length := Nat.lt_of_succ_lt_succ hi
        have hne : (names[i] == name) = false :=
          beq_eq_false_iff_ne.2 fun heq => hnew (heq ▸ List.getElem_mem hi')
        simpa [Json.get?, List.lookup_cons, hne] using ih hnodup items hi'

theorem text_eq_ok_iff {v : Json} {s : String} : text v = .ok s ↔ v = .text s := by
  cases v <;> simp [text, refuse]

/-- The fields of a record are read off the front of an array. -/
theorem head_eq_ok_iff {t : Json} {fields : List Json} {r : Record} :
    record.head t fields = .ok r ↔
      HasFields (fieldNames.zip (t :: fields)) r ∧ r.context = [] := by
  let ms := fieldNames.zip (t :: fields)
  have hget (i : Fin 7) : Json.get? fieldNames[i] ms = (t :: fields)[i.val]? :=
    get?_zip (by decide) _ i.2
  have htext : Json.get? "text" ms = some t := hget 0
  have hline : Json.get? "line" ms = fields[0]? := hget 1
  have hstart : Json.get? "start" ms = fields[1]? := hget 2
  have hlast : Json.get? "end" ms = fields[2]? := hget 3
  have hcounterexample : Json.get? "counterexample" ms = fields[3]? := hget 4
  have hfilename : Json.get? "filename" ms = fields[4]? := hget 5
  simp only [record.head, bind_eq_ok_iff, text_eq_ok_iff, position_eq_ok_iff,
    optionalText_eq_ok_iff]
  rw [← hline, ← hstart, ← hlast, ← hcounterexample, ← hfilename]
  constructor
  · rintro ⟨text, rfl, line, hline, start, hstart, last, hlast, counterexample, hcounterexample,
      filename, hfilename, heq⟩
    cases heq
    exact ⟨⟨htext, hline, hstart, hlast, hcounterexample, hfilename⟩, rfl⟩
  · rintro ⟨h, hcontext⟩
    refine ⟨_, Option.some.inj (htext.symm.trans h.text), _, h.line, _, h.start, _, h.last, _,
      h.counterexample, _, h.filename, ?_⟩
    cases r
    cases hcontext
    rfl

/-- The context is no concern of the other fields. -/
theorem HasFields.with_context {ms : Json.Members} {r : Record} (h : HasFields ms r)
    (context : List Record) : HasFields ms { r with context } :=
  ⟨h.text, h.line, h.start, h.last, h.counterexample, h.filename⟩

theorem isRecord_array_iff {t : Json} {fields : List Json} {r : Record} :
    IsRecord (.array (t :: fields)) r ↔
      fields.length ≤ 6 ∧ HasFields (fieldNames.zip (t :: fields)) r ∧
        IsContext fields[5]? r.context := by
  have hcontext : Json.get? "context" (fieldNames.zip (t :: fields)) = fields[5]? :=
    get?_zip (by decide : fieldNames.Nodup) (t :: fields) (by decide : 6 < fieldNames.length)
  rw [isRecord_iff, ← hcontext]
  constructor
  · rintro ⟨ms, hms, hfields, hcontext⟩
    unfold fields? at hms
    obtain ⟨⟨-, hlength⟩, ⟨⟩⟩ := Option.ite_none_right_eq_some.1 hms
    exact ⟨Nat.le_of_succ_le_succ hlength, hfields, hcontext⟩
  · rintro ⟨hlength, hfields, hcontext⟩
    refine ⟨_, if_pos ⟨?_, Nat.succ_le_succ hlength⟩, hfields, hcontext⟩
    exact Nat.succ_le_succ (Nat.zero_le _)

/-- An array that ends before the context. -/
theorem head_eq_ok_iff_isRecord {t : Json} {fields : List Json} (h : fields.length ≤ 5)
    {r : Record} : record.head t fields = .ok r ↔ IsRecord (.array (t :: fields)) r := by
  rw [head_eq_ok_iff, isRecord_array_iff, List.getElem?_eq_none h, isContext_none_iff]
  exact (and_iff_right (Nat.le_succ_of_le h)).symm

mutual

/-- The values that are read as records are those of the grammar. -/
theorem record_eq_ok_iff : (v : Json) → {r : Record} → (record v = .ok r ↔ IsRecord v r)
  | .object members, r => by
    rw [isRecord_iff, record]
    constructor
    · intro h
      split at h
      · cases h
      · rename_i context hcontext
        simp only [bind_eq_ok_iff, requiredText_eq_ok_iff, position_eq_ok_iff,
          optionalText_eq_ok_iff] at h
        obtain ⟨counterexample, hcounterexample, last, hlast, filename, hfilename, line, hline,
          start, hstart, text, htext, heq⟩ := h
        cases heq
        exact ⟨members, rfl, ⟨htext, hline, hstart, hlast, hcounterexample, hfilename⟩,
          (contextMember_eq_ok_iff members).1 hcontext⟩
    · rintro ⟨ms, hms, h, hcontext⟩
      cases hms
      rw [(contextMember_eq_ok_iff members).2 hcontext]
      simp only [bind_eq_ok_iff, requiredText_eq_ok_iff, position_eq_ok_iff,
        optionalText_eq_ok_iff]
      refine ⟨_, h.counterexample, _, h.last, _, h.filename, _, h.line, _, h.start, _, h.text, ?_⟩
      cases r
      rfl
  | .array [], r => by
    rw [record]
    exact ⟨nofun, fun ⟨h, _, _⟩ => nomatch h⟩
  | .array (t :: fields), r => by
    match fields with
    | [] | [_] | [_, _] | [_, _, _] | [_, _, _, _] | [_, _, _, _, _] =>
      rw [record]
      exact head_eq_ok_iff_isRecord (by simp)
      all_goals exact nofun
    | line :: start :: last :: counterexample :: filename :: c :: rest =>
      rw [record, isRecord_array_iff]
      constructor
      · intro h
        split at h
        · cases h
        · rename_i front hfront
          split at h
          · cases h
          · rename_i context hcontext
            split at h
            · rename_i hrest
              obtain rfl : rest = [] := List.isEmpty_iff.1 hrest
              cases h
              exact ⟨by simp, (head_eq_ok_iff.1 hfront).1.with_context context,
                (records_eq_ok_iff c).1 hcontext⟩
            · cases h
      · rintro ⟨hlength, hfields, hcontext⟩
        simp only [List.length_cons] at hlength
        obtain rfl : rest = [] := List.eq_nil_of_length_eq_zero (by omega)
        rw [head_eq_ok_iff.2 ⟨hfields.with_context [], rfl⟩]
        simp only [(records_eq_ok_iff c).2 hcontext]
        cases r
        rfl
  | .null, r | .boolean _, r | .number _, r | .text _, r => by
    rw [record]
    exact ⟨nofun, fun ⟨h, _, _⟩ => nomatch h⟩
    all_goals exact nofun

theorem contextMember_eq_ok_iff : (ms : List (String × Json)) → {rs : List Record} →
    (contextMember ms = .ok rs ↔ IsContext (Json.get? "context" ms) rs)
  | [], rs => by
    rw [contextMember, Except.ok.injEq, eq_comm]
    exact isContext_none_iff.symm
  | (name, value) :: ms, rs => by
    rw [contextMember]
    by_cases h : name = "context"
    · subst h
      rw [if_pos rfl, records_eq_ok_iff value]
      simp [Json.get?]
    · have hne : ("context" == name) = false := beq_eq_false_iff_ne.2 (Ne.symm h)
      rw [if_neg h, contextMember_eq_ok_iff ms]
      simp [Json.get?, List.lookup_cons, hne]

theorem records_eq_ok_iff : (v : Json) → {rs : List Record} →
    (records v = .ok rs ↔ IsContext (some v) rs)
  | .array items, rs => by
    rw [records, recordList_eq_ok_iff items, isContext_array_iff]
  | .object _, _ | .null, _ | .boolean _, _ | .number _, _ | .text _, _ => by
    rw [records]
    exact ⟨nofun, nofun⟩
    all_goals exact nofun

theorem recordList_eq_ok_iff : (items : List Json) → {rs : List Record} →
    (recordList items = .ok rs ↔ AreRecords items rs)
  | [], rs => by
    rw [recordList, Except.ok.injEq, eq_comm]
    constructor
    · rintro rfl
      exact .nil
    · rintro ⟨⟩
      rfl
  | item :: items, rs => by
    rw [recordList]
    constructor
    · intro h
      split at h
      · cases h
      · rename_i r hr
        cases hrs : recordList items with
        | error e =>
          rw [hrs] at h
          cases h
        | ok rs =>
          rw [hrs] at h
          cases h
          exact .cons ((record_eq_ok_iff item).1 hr) ((recordList_eq_ok_iff items).1 hrs)
    · rintro (- | ⟨hr, hrs⟩)
      rw [(record_eq_ok_iff item).2 hr, (recordList_eq_ok_iff items).2 hrs]
      rfl

end

end Wire

/-! ## Answers -/

namespace Decoded

/-- The tags of an answer. -/
def tags : List String := ["success", "errors", "exception"]

/-- An object with the members `ms` is an answer that comes to the outcome given, with the warnings
given. -/
inductive Answers (ms : Json.Members) : Decoded → Prop where
  | success {js : String} : Json.get? "result" ms = some (.text "success") →
      Json.get? "js" ms = some (.text js) → Answers ms ⟨.success js, []⟩
  | errors {items : List Json} {rs : List Wire.Record} :
      Json.get? "result" ms = some (.text "errors") →
      Json.get? "errors" ms = some (.array items) → Wire.AreRecords items rs →
      Answers ms ⟨.errors (Wire.validateAll rs), Wire.warningsAll rs⟩
  | exception {message : Option String} : Json.get? "result" ms = some (.text "exception") →
      Wire.Field Wire.IsText (Json.get? "text" ms) message →
      Answers ms ⟨.exception (message.getD ""), []⟩

/-- A tag that is known has a payload, right or wrong. -/
theorem payload?_eq_none_iff {tag : String} {ms : Json.Members} :
    payload? tag ms = none ↔ tag ∉ tags := by
  unfold payload? tags
  split
  · simp [*]
  · split
    · simp [*]
    · split <;> simp [*]

/-- A member that must be an array of records. -/
theorem records_eq_ok_iff_array {v : Json} {rs : List Wire.Record} :
    Wire.records v = .ok rs ↔ ∃ items, v = .array items ∧ Wire.AreRecords items rs := by
  rw [Wire.records_eq_ok_iff]
  constructor
  · rintro (- | h)
    exact ⟨_, rfl, h⟩
  · rintro ⟨items, rfl, h⟩
    exact .present h

theorem payload?_eq_ok_iff {tag : String} {ms : Json.Members}
    (htag : Json.get? "result" ms = some (.text tag)) {d : Decoded} :
    payload? tag ms = some (.ok d) ↔ Answers ms d := by
  constructor
  · intro h
    unfold payload? at h
    split at h
    · rename_i hsuccess
      subst hsuccess
      obtain ⟨js, hjs, rfl⟩ := map_eq_ok_iff.1 (Option.some.inj h)
      exact .success htag (Wire.requiredText_eq_ok_iff.1 hjs)
    · split at h
      · rename_i herrors
        subst herrors
        split at h
        · cases h
        · rename_i v hv
          obtain ⟨rs, hrs, rfl⟩ := map_eq_ok_iff.1 (Option.some.inj h)
          obtain ⟨items, rfl, hitems⟩ := records_eq_ok_iff_array.1 hrs
          exact .errors htag hv hitems
      · split at h
        · rename_i hexception
          subst hexception
          obtain ⟨message, hmessage, rfl⟩ := map_eq_ok_iff.1 (Option.some.inj h)
          exact .exception htag (Wire.optionalText_eq_ok_iff.1 hmessage)
        · cases h
  · intro h
    cases h with
    | success hresult hjs =>
      cases htag.symm.trans hresult
      exact congrArg some (map_eq_ok_iff.2 ⟨_, Wire.requiredText_eq_ok_iff.2 hjs, rfl⟩)
    | errors hresult hitems hrs =>
      cases htag.symm.trans hresult
      simp only [payload?, String.reduceEq, if_false, if_true, hitems]
      exact congrArg some (map_eq_ok_iff.2 ⟨_, records_eq_ok_iff_array.2 ⟨_, rfl, hrs⟩, rfl⟩)
    | exception hresult hmessage =>
      cases htag.symm.trans hresult
      exact congrArg some (map_eq_ok_iff.2 ⟨_, Wire.optionalText_eq_ok_iff.2 hmessage, rfl⟩)

theorem Answers.tag {ms : Json.Members} {d : Decoded} (h : Answers ms d) :
    ∃ tag, Json.get? "result" ms = some (.text tag) := by
  cases h with
  | success h | errors h | exception h => exact ⟨_, h⟩

/-- An object is understood if it is an answer. -/
theorem ofJson_eq_ok_iff {ms : Json.Members} {d : Decoded} :
    ofJson (.object ms) = .ok d ↔ Answers ms d := by
  constructor
  · intro h
    simp only [ofJson] at h
    split at h
    · cases h
    · cases h
    · rename_i tag htag
      refine (payload?_eq_ok_iff htag).1 ?_
      split at h
      · cases h
      · rename_i r hr
        cases r with
        | error fault => cases h
        | ok d' =>
          cases h
          exact hr
    · cases h
  · intro h
    obtain ⟨tag, htag⟩ := h.tag
    simp only [ofJson, htag, (payload?_eq_ok_iff htag).2 h]
    rfl

/-- The decoder understands the answers of the grammar, with the outcome that the grammar gives
them. Every other value is refused: one that is no object; an object without a tag; one with a tag
that is not known, which the refusal names, as it is or as it is written if it is no text; and one
whose payload is not what its tag promises. -/
theorem ofJson_understands (v : Json) :
    (∀ d, ofJson v = .ok d ↔ ∃ ms, v = .object ms ∧ Answers ms d) ∧
    ((∀ ms, v ≠ .object ms) → ofJson v = .error .notAnObject) ∧
    ∀ ms, v = .object ms →
      (Json.get? "result" ms = none ∨ Json.get? "result" ms = some .null →
        ofJson v = .error .missingTag) ∧
      (∀ other, Json.get? "result" ms = some other → other ≠ .null → (∀ tag, other ≠ .text tag) →
        ofJson v = .error (.unknownTag other.render)) ∧
      ∀ tag, Json.get? "result" ms = some (.text tag) →
        (tag ∉ tags → ofJson v = .error (.unknownTag tag)) ∧
        (tag ∈ tags → (∀ d, ¬ Answers ms d) → ∃ fault, ofJson v = .error (.malformed tag fault)) := by
  refine ⟨fun d => ?_, fun hv => ?_, ?_⟩
  · constructor
    · intro h
      cases v with
      | object ms => exact ⟨ms, rfl, ofJson_eq_ok_iff.1 h⟩
      | _ => cases h
    · rintro ⟨ms, rfl, h⟩
      exact ofJson_eq_ok_iff.2 h
  · cases v with
    | object ms => exact absurd rfl (hv ms)
    | _ => rfl
  · rintro ms rfl
    refine ⟨?_, ?_, ?_⟩
    · rintro (h | h) <;> simp only [ofJson, h]
    · intro other h hnull htext
      cases other with
      | null => exact absurd rfl hnull
      | text tag => exact absurd rfl (htext tag)
      | _ => simp only [ofJson, h]
    · intro tag htag
      constructor
      · intro hunknown
        simp only [ofJson, htag, payload?_eq_none_iff.2 hunknown]
      · intro hknown hnone
        cases hpayload : payload? tag ms with
        | none => exact absurd hknown (payload?_eq_none_iff.1 hpayload)
        | some r =>
          cases r with
          | error fault =>
            refine ⟨fault, ?_⟩
            simp only [ofJson, htag, hpayload]
            rfl
          | ok d => exact absurd ((payload?_eq_ok_iff htag).1 hpayload) (hnone d)

end Decoded

end CompileSession
