import CompileSession.Proofs.Response.Grammar
import CompileSession.Session.Desk
import Mathlib.Algebra.Group.Nat.Defs
import Mathlib.Data.List.Forall2

/-!
# What becomes of the records of an answer

An answer with errors brings one diagnostic for each record, in the same order and with the same
context at every depth. The texts are carried over as they are. Of the position a span is made only
if all three numbers are given and in range, and then it has just these numbers. A position that was
given but makes no span is noted, each one once and in the order in which the text goes.

Results:
1. `Wire.span?_eq_some_iff`, `Wire.isSome_span?_iff`: the span of a position.
2. `Wire.conveys_iff`: the diagnostic of a record, by recursion over its context.
3. `Wire.warningsAll_eq`: the warnings.
4. `Decoded.errors_lose_nothing`: the diagnostics and warnings of an answer.
-/

namespace CompileSession

namespace Wire

/-! ## Definitions -/

/-- The position of a record is complete, its line fits 32 bits and counts from 1, and its columns
are in order and leave room for the column after the end. -/
def Record.Placed (r : Record) : Prop :=
  match r.line, r.start, r.last with
  | some line, some start, some last =>
    1 ≤ line ∧ line ≤ 2 ^ 32 - 1 ∧ 0 ≤ start ∧ start ≤ last ∧ last ≤ 2 ^ 32 - 2
  | _, _, _ => False

instance (r : Record) : Decidable r.Placed := by
  unfold Record.Placed
  split <;> infer_instance

/-- What is noted about the position of a record: nothing if it makes a span or is left out as a
whole. -/
def Record.warning? (r : Record) : Option Warning :=
  if r.Placed ∨ (r.line = none ∧ r.start = none ∧ r.last = none) then none
  else if r.line.isSome ∧ r.start.isSome ∧ r.last.isSome then some .positionOutOfRange
  else some .positionIncomplete

mutual

/-- A record and those of its context at any depth, each before its own context. -/
def Record.withContext : Record → List Record
  | ⟨text, line, start, last, counterexample, filename, context⟩ =>
    ⟨text, line, start, last, counterexample, filename, context⟩ :: withContexts context

/-- Records and those of their contexts at any depth, one record after the other. -/
def withContexts : List Record → List Record
  | [] => []
  | r :: rs => r.withContext ++ withContexts rs

end

/-- A diagnostic says by itself, apart from its context, what a record says. -/
structure Carries (r : Record) (d : Diagnostic) : Prop where
  text : d.text = r.text
  counterexample : d.counterexample = r.counterexample
  filename : d.filename = r.filename
  placed : d.span.isSome ↔ r.Placed
  span : ∀ s, d.span = some s →
    r.line = some (s.line.toNat : Int) ∧ r.start = some (s.start.toNat : Int) ∧
      r.last = some (s.last.toNat : Int)

/-- A diagnostic says what a record says, and the diagnostics of its context what the records of the
other context say, one by one. -/
inductive Conveys : Record → Diagnostic → Prop where
  | of {r : Record} {d : Diagnostic} : Carries r d →
      List.Forall₂ Conveys r.context d.context → Conveys r d

/-! ## Spans -/

theorem column?_eq_some_iff {i : Int} {c : UInt32} : column? i = some c ↔ i = c.toNat := by
  have hc := c.toNat_lt
  unfold column?
  constructor
  · intro h
    obtain ⟨⟨hlow, hhigh⟩, hi⟩ := Option.ite_none_right_eq_some.1 h
    cases hi
    rw [UInt32.toNat_ofNat_of_lt' (show i.toNat < 2 ^ 32 by omega)]
    omega
  · rintro rfl
    rw [if_pos (by omega), Int.toNat_natCast, UInt32.ofNat_toNat]

theorem exists_column {i : Int} (hlow : 0 ≤ i) (hhigh : i < 2 ^ 32) :
    ∃ c : UInt32, i = c.toNat := by
  refine ⟨.ofNat i.toNat, ?_⟩
  rw [UInt32.toNat_ofNat_of_lt' (show i.toNat < 2 ^ 32 by omega)]
  omega

theorem valid_iff {line start last : UInt32} :
    Span.Valid line start last ↔
      1 ≤ line.toNat ∧ start.toNat ≤ last.toNat ∧ last.toNat ≤ 2 ^ 32 - 2 := by
  have hlast := last.toNat_lt
  have hmax : last ≠ Span.maxColumn ↔ last.toNat ≠ 2 ^ 32 - 1 :=
    not_congr (UInt32.toNat_inj (b := Span.maxColumn)).symm
  rw [Span.Valid, UInt32.le_iff_toNat_le, UInt32.le_iff_toNat_le, hmax]
  show 1 ≤ line.toNat ∧ _ ↔ _
  omega

/-- The numbers of a span are those of the position, and they are valid. -/
theorem span?_eq_some_iff {line start last : Option Int} {s : Span} :
    span? line start last = some s ↔ line = some (s.line.toNat : Int) ∧
      start = some (s.start.toNat : Int) ∧ last = some (s.last.toNat : Int) ∧
      Span.Valid s.line s.start s.last := by
  constructor
  · intro h
    unfold span? at h
    split at h
    · simp only [Option.bind_eq_bind, Option.bind_eq_some_iff, column?_eq_some_iff,
        Span.of?_eq_some_iff] at h
      obtain ⟨l, rfl, a, rfl, b, rfl, hvalid, rfl⟩ := h
      exact ⟨rfl, rfl, rfl, hvalid⟩
    · cases h
  · rintro ⟨rfl, rfl, rfl, hvalid⟩
    have hcolumn (c : UInt32) : column? c.toNat = some c := column?_eq_some_iff.2 rfl
    simp only [span?, hcolumn]
    exact Span.of?_eq_some_iff.2 ⟨hvalid, rfl⟩

/-- Three numbers that are those of a span are in range if the span is valid. -/
theorem placed_iff {r : Record} {s : Span} (hline : r.line = some (s.line.toNat : Int))
    (hstart : r.start = some (s.start.toNat : Int)) (hlast : r.last = some (s.last.toNat : Int)) :
    r.Placed ↔ Span.Valid s.line s.start s.last := by
  have hl := s.line.toNat_lt
  rw [valid_iff, Record.Placed]
  simp only [hline, hstart, hlast]
  omega

/-- A position makes a span if it is complete and in range. -/
theorem isSome_span?_iff {r : Record} : (span? r.line r.start r.last).isSome ↔ r.Placed := by
  rw [Option.isSome_iff_exists]
  constructor
  · rintro ⟨s, hs⟩
    obtain ⟨hline, hstart, hlast, hvalid⟩ := span?_eq_some_iff.1 hs
    exact (placed_iff hline hstart hlast).2 hvalid
  · intro hplaced
    have hrange := hplaced
    unfold Record.Placed at hrange
    split at hrange
    · rename_i line start last hline hstart hlast
      obtain ⟨l, rfl⟩ := exists_column (show 0 ≤ line by omega) (by omega)
      obtain ⟨a, rfl⟩ := exists_column (show 0 ≤ start by omega) (by omega)
      obtain ⟨b, rfl⟩ := exists_column (show 0 ≤ last by omega) (by omega)
      exact ⟨⟨l, a, b⟩, span?_eq_some_iff.2
        ⟨hline, hstart, hlast, (placed_iff (s := ⟨l, a, b⟩) hline hstart hlast).1 hplaced⟩⟩
    · exact hrange.elim

/-! ## Diagnostics -/

theorem carries_iff {r : Record} {d : Diagnostic} :
    Carries r d ↔ d.text = r.text ∧ d.counterexample = r.counterexample ∧
      d.filename = r.filename ∧ d.span = span? r.line r.start r.last := by
  constructor
  · intro h
    refine ⟨h.text, h.counterexample, h.filename, ?_⟩
    cases hd : d.span with
    | none =>
      refine (Option.not_isSome_iff_eq_none.1 fun hsome => ?_).symm
      have := h.placed.2 (isSome_span?_iff.1 hsome)
      rw [hd] at this
      cases this
    | some s =>
      obtain ⟨hline, hstart, hlast⟩ := h.span s hd
      have hvalid := (placed_iff hline hstart hlast).1 (h.placed.1 (by rw [hd]; rfl))
      exact (span?_eq_some_iff.2 ⟨hline, hstart, hlast, hvalid⟩).symm
  · rintro ⟨htext, hcounterexample, hfilename, hspan⟩
    refine ⟨htext, hcounterexample, hfilename, ?_, fun s hs => ?_⟩
    · rw [hspan]
      exact isSome_span?_iff
    · obtain ⟨hline, hstart, hlast, -⟩ := span?_eq_some_iff.1 (hspan.symm.trans hs)
      exact ⟨hline, hstart, hlast⟩

mutual

/-- Just one diagnostic says what a record says. -/
theorem conveys_iff : (r : Record) → {d : Diagnostic} → (Conveys r d ↔ d = r.validate)
  | ⟨text, line, start, last, counterexample, filename, context⟩, d => by
    rw [Record.validate]
    constructor
    · rintro ⟨hcarries, hcontext⟩
      obtain ⟨htext, hcounterexample, hfilename, hspan⟩ := carries_iff.1 hcarries
      have hds := (forall₂_conveys_iff context).1 hcontext
      simp only at htext hcounterexample hfilename hspan
      rw [← hds, ← hspan, ← htext, ← hcounterexample, ← hfilename]
      cases d
      rfl
    · rintro rfl
      exact .of (carries_iff.2 ⟨rfl, rfl, rfl, rfl⟩) ((forall₂_conveys_iff context).2 rfl)

theorem forall₂_conveys_iff : (rs : List Record) → {ds : List Diagnostic} →
    (List.Forall₂ Conveys rs ds ↔ ds = validateAll rs)
  | [], ds => by
    rw [validateAll, List.forall₂_nil_left_iff]
  | r :: rs, ds => by
    rw [validateAll, List.forall₂_cons_left_iff]
    constructor
    · rintro ⟨d, ds, hd, hds, rfl⟩
      rw [(conveys_iff r).1 hd, (forall₂_conveys_iff rs).1 hds]
    · rintro rfl
      exact ⟨_, _, (conveys_iff r).2 rfl, (forall₂_conveys_iff rs).2 rfl, rfl⟩

end

/-! ## Warnings -/

theorem Record.Placed.complete {r : Record} (h : r.Placed) :
    r.line.isSome ∧ r.start.isSome ∧ r.last.isSome := by
  unfold Record.Placed at h
  split at h
  · rename_i hline hstart hlast
    rw [hline, hstart, hlast]
    exact ⟨rfl, rfl, rfl⟩
  · exact h.elim

/-- The warnings about three positions are what is noted about the record that has them. -/
theorem positionWarnings_eq (r : Record) :
    positionWarnings r.line r.start r.last = r.warning?.toList := by
  have hspan := isSome_span?_iff (r := r)
  unfold positionWarnings
  split
  · rename_i hline hstart hlast
    rw [Record.warning?, if_pos (.inr ⟨hline, hstart, hlast⟩)]
    rfl
  · rename_i line start last hline hstart hlast
    rw [hline, hstart, hlast] at hspan
    by_cases hplaced : r.Placed
    · rw [if_pos (hspan.2 hplaced), Record.warning?, if_pos (.inl hplaced)]
      rfl
    · have hgiven : ¬ r.line = none := by rw [hline]; exact nofun
      rw [if_neg (mt hspan.1 hplaced), Record.warning?,
        if_neg (not_or.2 ⟨hplaced, fun hnone => hgiven hnone.1⟩), if_pos (by simp [*])]
      rfl
  · rename_i hgiven hincomplete
    have hsome : ¬ (r.line.isSome ∧ r.start.isSome ∧ r.last.isSome) := by
      simp only [Option.isSome_iff_exists]
      rintro ⟨⟨line, hline⟩, ⟨start, hstart⟩, ⟨last, hlast⟩⟩
      exact hincomplete line start last hline hstart hlast
    have hnone : ¬ (r.Placed ∨ (r.line = none ∧ r.start = none ∧ r.last = none)) :=
      not_or.2 ⟨fun hplaced => hsome hplaced.complete, fun h => hgiven h.1 h.2.1 h.2.2⟩
    rw [Record.warning?, if_neg hnone, if_neg hsome]
    rfl

mutual

/-- The warnings about a record are those about the records of its tree, one by one. -/
theorem warnings_eq : (r : Record) → r.warnings = r.withContext.filterMap Record.warning?
  | ⟨text, line, start, last, counterexample, filename, context⟩ => by
    have hown := positionWarnings_eq ⟨text, line, start, last, counterexample, filename, context⟩
    rw [Record.warnings, Record.withContext, warningsAll_eq context, List.filterMap_cons]
    show positionWarnings line start last ++ _ = _
    rw [hown]
    cases Record.warning? ⟨text, line, start, last, counterexample, filename, context⟩ <;> rfl

theorem warningsAll_eq : (rs : List Record) →
    warningsAll rs = (withContexts rs).filterMap Record.warning?
  | [] => rfl
  | r :: rs => by
    rw [warningsAll, withContexts, List.filterMap_append, warnings_eq r, warningsAll_eq rs]

end

end Wire

/-! ## Answers -/

namespace Decoded

/-- What an answer with errors is told from: an array of records in the member `errors`. -/
theorem answers_errors_iff {ms : Json.Members} {ds : List Diagnostic} {ws : List Warning} :
    Answers ms ⟨.errors ds, ws⟩ ↔ ∃ items rs,
      Json.get? "result" ms = some (.text "errors") ∧
      Json.get? "errors" ms = some (.array items) ∧ Wire.AreRecords items rs ∧
      ds = Wire.validateAll rs ∧ ws = Wire.warningsAll rs := by
  constructor
  · rintro (- | ⟨hresult, hitems, hrs⟩ | -)
    exact ⟨_, _, hresult, hitems, hrs, rfl, rfl⟩
  · rintro ⟨items, rs, hresult, hitems, hrs, rfl, rfl⟩
    exact .errors hresult hitems hrs

/-- An answer with errors brings what its records say and nothing else. It is understood just if it
is an object whose member `errors` is an array of records; then the diagnostics are those records
with their contexts, in the same order at every depth, each with its texts and, if its position is
complete and in range, with the span of just these numbers. What is noted is one warning for each
record at any depth whose position is incomplete or out of range, in the order of the text. Of a
body that is refused, for whatever is wrong anywhere in it, nothing is noted. -/
theorem errors_lose_nothing (v : Json) (ds : List Diagnostic) (ws : List Warning) :
    (ofJson v = .ok ⟨.errors ds, ws⟩ ↔ ∃ ms items rs, v = .object ms ∧
      Json.get? "result" ms = some (.text "errors") ∧
      Json.get? "errors" ms = some (.array items) ∧ Wire.AreRecords items rs ∧
      List.Forall₂ Wire.Conveys rs ds ∧
      ws = (Wire.withContexts rs).filterMap Wire.Record.warning?) ∧
    ∀ body e, Desk.decodeBody body = (.error e, ws) → ws = [] := by
  refine ⟨?_, fun body e h => ?_⟩
  · constructor
    · intro h
      obtain ⟨ms, rfl⟩ : ∃ ms, v = .object ms := by
        cases v with
        | object ms => exact ⟨ms, rfl⟩
        | _ => cases h
      obtain ⟨items, rs, hresult, hitems, hrs, rfl, rfl⟩ :=
        answers_errors_iff.1 (ofJson_eq_ok_iff.1 h)
      exact ⟨ms, items, rs, rfl, hresult, hitems, hrs, (Wire.forall₂_conveys_iff rs).2 rfl,
        Wire.warningsAll_eq rs⟩
    · rintro ⟨ms, items, rs, rfl, hresult, hitems, hrs, hds, rfl⟩
      refine ofJson_eq_ok_iff.2 (answers_errors_iff.2 ⟨items, rs, hresult, hitems, hrs, ?_, ?_⟩)
      · exact (Wire.forall₂_conveys_iff rs).1 hds
      · exact (Wire.warningsAll_eq rs).symm
  · unfold Desk.decodeBody at h
    split at h
    · cases h
    · exact (congrArg Prod.snd h).symm

end Decoded

end CompileSession
