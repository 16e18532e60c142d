import CompileSession.Proofs.Json.Records
import CompileSession.Proofs.Text.Octets
import CompileSession.Request.Body

/-!
# A request in its two bodies

A request travels as a form or as a JSON document. In a form the characters that tell fields apart,
and those that take part in writing others, never stand for themselves in a name or a value. So the
form is cut where its fields end, and each name and value is read back as the text that it stands
for, whatever characters it has.

Results:
1. `Form.unescape_escape`: a name or a value is read back.
2. `Form.read_renderPairs`: a form is read back as its fields, whatever they are.
3. `Request.read_body` and `Request.ofText_body`: so is the form of a request, and its JSON
   document.
4. `Request.body_inj`: different requests have different bodies, also under different encodings.
-/

namespace CompileSession

/-! ## Forms -/

namespace Form

/-- The characters that occur in what is written in a form for a name or a value. -/
def Written (c : Char) : Prop := isPlain c = true ∨ c = '+' ∨ c = '%'

theorem isPlain_hexCapital {n : Nat} (h : n < 16) : isPlain (Text.hexCapital n) = true := by
  have all : ∀ m : Fin 16, isPlain (Text.hexCapital m) = true := by decide
  exact all ⟨n, h⟩

theorem toNat_lt_of_isPlain {c : Char} (h : isPlain c = true) : c.toNat < 128 := by
  unfold isPlain at h
  simp only [Bool.or_eq_true, Bool.and_eq_true, decide_eq_true_eq, beq_iff_eq] at h
  rcases h with (((((⟨-, hlast⟩ | ⟨-, hlast⟩) | ⟨-, hlast⟩) | rfl) | rfl) | rfl) | rfl
  · exact Nat.lt_of_le_of_lt hlast (by decide)
  · exact Nat.lt_of_le_of_lt hlast (by decide)
  · exact Nat.lt_of_le_of_lt hlast (by decide)
  all_goals decide

theorem Written.toNat_lt {c : Char} (h : Written c) : c.toNat < 128 := by
  rcases h with hplain | rfl | rfl
  · exact toNat_lt_of_isPlain hplain
  · decide
  · decide

/-- No character of a name or a value ends it. -/
theorem Written.ne {c : Char} (h : Written c) : c ≠ '&' ∧ c ≠ '=' := by
  constructor <;>
  · rintro rfl
    revert h
    unfold Written
    decide

theorem mem_encodeChar {c d : Char} (h : d ∈ Text.Percent.encodeChar c) :
    isPlain d = true ∨ d = '%' := by
  obtain ⟨b, -, hd⟩ := List.mem_flatMap.1 h
  have hb : b.toNat < 256 := b.toNat_lt
  have hhigh : b.toNat / 16 < 16 := by omega
  have hlow : b.toNat % 16 < 16 := by omega
  simp only [Text.Percent.encodeOctet, List.mem_cons, List.not_mem_nil, or_false] at hd
  rcases hd with rfl | rfl | rfl
  · exact .inr rfl
  · exact .inl (isPlain_hexCapital hhigh)
  · exact .inl (isPlain_hexCapital hlow)

theorem written_escape (s : String) : ∀ d ∈ escape s, Written d := by
  intro d hd
  obtain ⟨c, -, hd⟩ := List.mem_flatMap.1 hd
  unfold escapeChar at hd
  split at hd
  · exact .inr (.inl (List.mem_singleton.1 hd))
  · split at hd
    · next hplain => exact .inl (List.mem_singleton.1 hd ▸ hplain)
    · exact (mem_encodeChar hd).imp_right .inr

/-! ### Names and values -/

/-- A plus sign is a blank, and every other character itself. -/
def blankOfPlus (c : Char) : Char := if c = '+' then ' ' else c

/-- Among the octets written with percent signs there is no plus sign. -/
theorem map_blankOfPlus_encodeChar (c : Char) :
    (Text.Percent.encodeChar c).map blankOfPlus = Text.Percent.encodeChar c := by
  refine (List.map_congr_left fun d hd => if_neg ?_).trans (List.map_id _)
  rintro rfl
  exact absurd (mem_encodeChar hd) (by decide)

theorem decode_escapeChar (c : Char) (cs : List Char) :
    Text.Percent.decode ((escapeChar c).map blankOfPlus ++ cs) =
      String.utf8EncodeChar c ++ Text.Percent.decode cs := by
  unfold escapeChar
  split
  · next hblank =>
    subst hblank
    exact Text.Percent.decode_cons (by decide) cs
  · split
    · next hplain =>
      have hplus : c ≠ '+' := by rintro rfl; revert hplain; decide
      have hpercent : c ≠ '%' := by rintro rfl; revert hplain; decide
      rw [List.map_singleton, blankOfPlus, if_neg hplus]
      exact Text.Percent.decode_cons hpercent cs
    · rw [map_blankOfPlus_encodeChar, Text.Percent.decode_encodeChar]

theorem decode_escape (cs : List Char) :
    Text.Percent.decode ((cs.flatMap escapeChar).map blankOfPlus) = Text.encode cs := by
  induction cs with
  | nil => rfl
  | cons c cs ih =>
    rw [List.flatMap_cons, List.map_append, decode_escapeChar, ih]
    rfl

/-- A name or a value is read back. -/
theorem unescape_escape (s : String) : unescape (escape s) = s := by
  show Text.decodeLossy (Text.Percent.decode ((s.toList.flatMap escapeChar).map blankOfPlus)) = s
  rw [decode_escape, Text.decodeLossy_encode, String.ofList_toList]

/-! ### Fields -/

/-- A field is cut at its first equals sign, and no name has one. -/
theorem readPair_renderPair (pair : String × String) : readPair (renderPair pair) = pair := by
  have hname : ∀ c ∈ escape pair.1, (c != '=') = true :=
    fun c hc => bne_iff_ne.2 (written_escape _ c hc).ne.2
  unfold readPair renderPair
  rw [List.takeWhile_append_of_pos hname, List.dropWhile_append_of_pos hname]
  simp [unescape_escape]

theorem toNat_lt_renderPair (pair : String × String) : ∀ c ∈ renderPair pair, c.toNat < 128 := by
  intro c hc
  rcases List.mem_append.1 hc with hname | hvalue
  · exact (written_escape _ c hname).toNat_lt
  rcases List.mem_cons.1 hvalue with rfl | hvalue
  · decide
  · exact (written_escape _ c hvalue).toNat_lt

theorem not_mem_renderPair (pair : String × String) : '&' ∉ renderPair pair := by
  intro h
  rcases List.mem_append.1 h with hname | hvalue
  · exact (written_escape _ _ hname).ne.1 rfl
  rcases List.mem_cons.1 hvalue with heq | hvalue
  · exact absurd heq (by decide)
  · exact (written_escape _ _ hvalue).ne.1 rfl

theorem pieces_renderPairs (pair : String × String) (pairs : List (String × String)) :
    Text.pieces '&' (renderPairs (pair :: pairs)) = (pair :: pairs).map renderPair := by
  induction pairs generalizing pair with
  | nil => exact Text.pieces_of_not_mem (not_mem_renderPair pair)
  | cons next pairs ih =>
    rw [renderPairs, Text.pieces_append (not_mem_renderPair pair), ih]
    · rfl
    · exact List.cons_ne_nil _ _

/-- A form is read back as its fields, whatever they are. -/
theorem read_renderPairs (pairs : List (String × String)) :
    read (String.ofList (renderPairs pairs)) = pairs := by
  cases pairs with
  | nil => rfl
  | cons pair pairs =>
    have hfull : ∀ p ∈ (pair :: pairs).map renderPair, (!p.isEmpty) = true := by
      intro p hp
      obtain ⟨q, -, rfl⟩ := List.mem_map.1 hp
      simp [renderPair]
    unfold read
    rw [String.toList_ofList, pieces_renderPairs, List.filter_eq_self.2 hfull, List.map_map]
    exact List.map_id'' readPair_renderPair _

/-- A form is pure ASCII. -/
theorem toNat_lt_renderPairs (pairs : List (String × String)) :
    ∀ c ∈ renderPairs pairs, c.toNat < 128 := by
  induction pairs with
  | nil => exact nofun
  | cons pair pairs ih =>
    cases pairs with
    | nil => exact toNat_lt_renderPair pair
    | cons next pairs =>
      intro c hc
      rcases List.mem_append.1 hc with hfirst | hlater
      · exact toNat_lt_renderPair pair c hfirst
      rcases List.mem_cons.1 hlater with rfl | hlater
      · decide
      · exact ih c hlater

end Form

/-! ## Requests -/

namespace Request

/-- A request as a row of the fields of its document. -/
def row (r : Request) : Json.Row shape.fields := (r.code, r.verify, r.counterexamples, ())

/-- The JSON document of a request is read back. -/
theorem ofText_body (r : Request) : ofText (r.body .json) = .ok r := by
  have hread := Json.readRecord_render shape (by decide) r.row
  unfold ofText
  rw [show r.body .json = (Json.object (Json.Row.members shape.fields r.row)).render from rfl,
    hread]
  rfl

theorem flagText_inj {b b' : Bool} : flagText b = flagText b' ↔ b = b' := by
  cases b <;> cases b' <;> decide

theorem formFields_inj {r r' : Request} : r.formFields = r'.formFields ↔ r = r' := by
  obtain ⟨code, verify, counterexamples⟩ := r
  obtain ⟨code', verify', counterexamples'⟩ := r'
  simp [formFields, flagText_inj]

/-- The form of a request is read as its fields. -/
theorem read_body (r : Request) : Form.read (r.body .form) = r.formFields :=
  Form.read_renderPairs r.formFields

/-- The form of a request is pure ASCII, whatever its source is. -/
theorem toNat_lt_body (r : Request) : ∀ c ∈ (r.body .form).toList, c.toNat < 128 := by
  intro c hc
  have hform : (r.body .form).toList = Form.renderPairs r.formFields := String.toList_ofList
  exact Form.toNat_lt_renderPairs r.formFields c (hform ▸ hc)

/-- A form begins with the name of its first field, and a document with a brace. -/
theorem head?_body (encoding : Encoding) (r : Request) :
    (r.body encoding).toList.head? = some (match encoding with | .form => 'c' | .json => '{') := by
  cases encoding with
  | form =>
    have hname : Form.escape "code" = ['c', 'o', 'd', 'e'] := by decide
    show (String.ofList (Form.renderPairs r.formFields)).toList.head? = _
    rw [String.toList_ofList, formFields, Form.renderPairs, Form.renderPair, hname]
    · rfl
    · exact List.cons_ne_nil _ _
  | json =>
    show (String.ofList ('{' :: _)).toList.head? = _
    rw [String.toList_ofList]
    rfl

/-- Different requests have different bodies, also under different encodings. -/
theorem body_inj {encoding encoding' : Encoding} {r r' : Request} :
    r.body encoding = r'.body encoding' ↔ encoding = encoding' ∧ r = r' := by
  refine ⟨fun h => ?_, fun h => h.1 ▸ h.2 ▸ rfl⟩
  have hhead := congrArg (·.toList.head?) h
  simp only [head?_body, Option.some.injEq] at hhead
  cases encoding with
  | form =>
    cases encoding' with
    | form =>
      have hfields := congrArg Form.read h
      rw [read_body, read_body] at hfields
      exact ⟨rfl, formFields_inj.1 hfields⟩
    | json => exact absurd hhead (by decide)
  | json =>
    cases encoding' with
    | form => exact absurd hhead (by decide)
    | json =>
      have hread := congrArg ofText h
      rw [ofText_body, ofText_body] at hread
      exact ⟨rfl, Except.ok.inj hread⟩

/-- The characters that a form sets apart, a line break, NUL and characters beyond the first
plane. -/
example : Request.body .form ⟨"a&b=c+d% \n\x00é😀", true, false⟩ =
    "code=a%26b%3Dc%2Bd%25+%0A%00%C3%A9%F0%9F%98%80&verify=true&counterexamples=false" := by
  decide +kernel

end Request

end CompileSession
