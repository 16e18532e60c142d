import CompileSession.Response.Decode
import CompileSession.Proofs.Json.Rendering
import CompileSession.Proofs.Json.WellFormed

/-!
# Answers decoded from their text

Decoding the text of an answer is decoding the value that the text stands for, however it is
spelled: neither the white space, nor the order of the members, nor the way in which a string is
written makes a difference, and not even which of several things wrong is reported.

Results:
1. `Decoded.ofText_render`: a value that is written down is decoded as itself.
2. `Decoded.ofText_spelled`: which texts are decoded as their value, and which are refused.
-/

namespace CompileSession.Decoded

open Json Json.Grammar

theorem ofText_of_readChars {text : String} {v : Json} (h : readChars text.toList = .ok v) :
    ofText text = ofJson v := by
  unfold ofText Json.read
  rw [h]
  rfl

theorem ofText_of_unread {text : String} (h : ∀ v, readChars text.toList ≠ .ok v) :
    ∃ fault, ofText text = .error (.invalidJson fault) := by
  cases hread : readChars text.toList with
  | error fault =>
    refine ⟨fault.locate text.toList, ?_⟩
    unfold ofText Json.read
    rw [hread]
    rfl
  | ok v => exact absurd hread (h v)

/-- A value with whole numbers that is written down is decoded as itself. -/
theorem ofText_render {v : Json} (h : v.Canonical) (hdepth : v.depth ≤ 127) :
    ofText v.render = ofJson v :=
  ofText_of_readChars (readChars_render h hdepth)

/-- A text whose numbers are plain whole numbers of 64 bits is decoded as the value that it stands
for, if it opens no more than 127 arrays and objects at once; where no object repeats a name, the
value itself tells how many it opens. A well-formed text that opens more is refused as no JSON, and
so is a text that is no value between white space. -/
theorem ofText_spelled (text : String) :
    (∀ raw v, Document Plain text.toList raw → Settles raw v → raw.depth ≤ 127 →
      ofText text = ofJson v) ∧
    (∀ raw v, Document Plain text.toList raw → Settles raw v → raw.Distinct → v.depth ≤ 127 →
      ofText text = ofJson v) ∧
    (∀ raw, Document Numeral text.toList raw → 127 < raw.depth →
      ∃ fault, ofText text = .error (.invalidJson fault)) ∧
    ((∀ raw, ¬ Document Numeral text.toList raw) →
      ∃ fault, ofText text = .error (.invalidJson fault)) := by
  refine ⟨fun raw v h hv hdepth => ?_, fun raw v h hv hdistinct hdepth => ?_,
    fun raw h hdepth => ?_, fun h => ?_⟩
  · exact ofText_of_readChars (readChars_of_document h hv hdepth)
  · have hraw := Nat.le_trans (hv.depth_le hdistinct) hdepth
    exact ofText_of_readChars (readChars_of_document h hv hraw)
  · refine ofText_of_unread fun v hread => ?_
    exact absurd (depth_le_of_readChars h hread) (Nat.not_le.2 hdepth)
  · refine ofText_of_unread fun v hread => ?_
    obtain ⟨raw, hraw⟩ := document_of_readChars hread
    exact h raw hraw

end CompileSession.Decoded
