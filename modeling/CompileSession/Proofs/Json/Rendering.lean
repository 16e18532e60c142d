import CompileSession.Json.Writer
import CompileSession.Proofs.Json.Reading

/-!
# Values written down

Every value whose numbers are whole and whose members are in order is spelled by the text that is
written for it, so it is read back.

Results:
1. `document_render`: what is written spells the value.
2. `readChars_render`: the value is read back.
-/

namespace CompileSession.Json

open Grammar

mutual

/-- The numbers of a value are whole numbers of 64 bits, and its members are in order. -/
def Canonical : Json → Prop
  | .number n => ∃ i : Int, -2 ^ 63 ≤ i ∧ i < 2 ^ 64 ∧ n = .integer i
  | .array items => CanonicalItems items
  | .object ms => Ascending ms ∧ CanonicalMembers ms
  | _ => True

def CanonicalItems : List Json → Prop
  | [] => True
  | v :: vs => Canonical v ∧ CanonicalItems vs

def CanonicalMembers : List (String × Json) → Prop
  | [] => True
  | (_, v) :: ms => Canonical v ∧ CanonicalMembers ms

end

/-! ## In order already -/

theorem Ascending.get?_reverse {ms : Members} (h : Ascending ms) (name : String) :
    get? name ms = get? name ms.reverse := by
  have hnodup : (ms.reverse.map Prod.fst).Nodup := by
    rw [List.map_reverse, List.nodup_reverse]
    exact h.nodup
  cases hget : get? name ms with
  | none =>
    refine (get?_eq_none_iff.2 fun m hm => ?_).symm
    exact get?_eq_none_iff.1 hget m (List.mem_reverse.1 hm)
  | some v => exact (get?_of_mem hnodup (List.mem_reverse.2 (mem_of_get? hget))).symm

mutual

/-- A value that is in order stands for itself. -/
theorem settles_self : (v : Json) → v.Canonical → Settles v v
  | .null, _ => .null
  | .boolean _, _ => .boolean
  | .number _, _ => .number
  | .text _, _ => .text
  | .array items, h => .array (settleItems_self items h)
  | .object ms, h => .object (settleMembers_self ms h.2) h.1 h.1.get?_reverse

theorem settleItems_self : (items : List Json) → CanonicalItems items → SettleItems items items
  | [], _ => .nil
  | v :: vs, h => .cons (settles_self v h.1) (settleItems_self vs h.2)

theorem settleMembers_self : (ms : List (String × Json)) → CanonicalMembers ms →
    SettleMembers ms ms
  | [], _ => .nil
  | (_, v) :: ms, h => .cons (settles_self v h.1) (settleMembers_self ms h.2)

end

/-! ## Spelling -/

theorem glyphs_renderString (s : String) (rest : List Char) :
    ∃ t, renderString s ++ rest = '"' :: t ∧ Glyphs t s.toList rest := by
  refine ⟨s.toList.flatMap escapeChar ++ '"' :: rest, by simp [renderString], ?_⟩
  exact Scan.stringRest_eq_ok_iff.1 (stringRest_flatMap s.toList rest)

theorem name_renderString (name : String) (rest : List Char) :
    Name (renderString name ++ ':' :: rest) name rest := by
  obtain ⟨t, ht, hname⟩ := glyphs_renderString name (':' :: rest)
  rw [ht]
  have h := Name.of (.refl _) hname (.refl _)
  rwa [String.ofList_toList] at h

mutual

theorem value_renderChars : (v : Json) → v.Canonical → (rest : List Char) →
    Value Plain (renderChars v ++ rest) v rest
  | .null, _, _ => .null
  | .boolean true, _, _ => .yes
  | .boolean false, _, _ => .no
  | .number n, h, rest => by
    obtain ⟨i, hlow, hhigh, rfl⟩ := h
    exact .number ⟨i, hlow, hhigh, rfl, rfl⟩
  | .text s, _, rest => by
    obtain ⟨t, ht, htext⟩ := glyphs_renderString s rest
    rw [renderChars, ht]
    have h : Value Plain ('"' :: t) _ rest := .text htext
    rwa [String.ofList_toList] at h
  | .array items, h, rest => by
    rw [renderChars, List.append_assoc]
    cases items with
    | nil => exact .noItems (.refl _)
    | cons v vs => exact .array (items_renderItems (v :: vs) (List.cons_ne_nil v vs) h _)
  | .object ms, h, rest => by
    rw [renderChars, List.append_assoc]
    cases ms with
    | nil => exact .noMembers (.refl _)
    | cons m ms => exact .object (members_renderMembers (m :: ms) (List.cons_ne_nil m ms) h.2 _)

theorem items_renderItems : (items : List Json) → items ≠ [] → CanonicalItems items →
    (rest : List Char) → Items Plain (renderItems items ++ rest) items rest
  | [], hne, _, _ => absurd rfl hne
  | [v], _, h, rest => .one (.refl _) (value_renderChars v h.1 rest) (.refl _)
  | v :: w :: vs, _, h, rest => by
    rw [renderItems, List.append_assoc]
    · exact .more (.refl _) (value_renderChars v h.1 _) (.refl _)
        (items_renderItems (w :: vs) (List.cons_ne_nil w vs) h.2 rest)
    · exact nofun

theorem members_renderMembers : (ms : List (String × Json)) → ms ≠ [] → CanonicalMembers ms →
    (rest : List Char) → Grammar.Members Plain (renderMembers ms ++ rest) ms rest
  | [], hne, _, _ => absurd rfl hne
  | [(name, v)], _, h, rest => by
    rw [renderMembers, List.append_assoc]
    exact .one (name_renderString name _) (.refl _) (value_renderChars v h.1 rest) (.refl _)
  | (name, v) :: m :: ms, _, h, rest => by
    rw [renderMembers]
    · simp only [List.append_assoc, List.cons_append]
      exact .more (name_renderString name _) (.refl _) (value_renderChars v h.1 _) (.refl _)
        (members_renderMembers (m :: ms) (List.cons_ne_nil m ms) h.2 rest)
    · exact nofun

end

/-- The text that is written for a value spells it. -/
theorem document_render {v : Json} (h : v.Canonical) : Document Plain v.render.toList v := by
  refine ⟨renderChars v, [], ?_, ?_, .refl _⟩
  · rw [render, String.toList_ofList]
    exact .refl _
  · have hvalue := value_renderChars v h []
    rwa [List.append_nil] at hvalue

theorem readChars_render {v : Json} (h : v.Canonical) (hdepth : v.depth ≤ maxDepth) :
    readChars v.render.toList = .ok v :=
  readChars_of_document (document_render h) (settles_self v h) hdepth

end CompileSession.Json
