import CompileSession.Proofs.Json.Passing
import CompileSession.Proofs.Json.Records

/-!
# Fields among other members

How the fields of a record are found among the members of an object. Each field may be the name of
just one member, which holds a value of the kind of the field; the other members may hold any loose
values, in any order and under any names.

The reader fills slots, one after the other. `Fills` says what some members put into them, and goes
along with the members as the reader does, so the two meet member by member.

Results:
1. `readContent_eq_ok_iff`: the content of one field.
2. `exists_fills_iff`: the members fill all slots if and only if each field stands once among them.
3. `readInto_of_fills` and `fills_of_readInto`: one member.
4. `readFields_of_body` and `body_of_readFields`: the members of an object.
-/

namespace CompileSession.Json

namespace Grammar

/-! ## Members with their characters -/

/-- The members of an object, each with the characters of its value. -/
abbrev RawMembers := List (String × List Char)

/-- One member or more, each with its name and the characters of its value, which may be any loose
value. -/
inductive Entries : List Char → RawMembers → List Char → Prop where
  | one {name : String} {value s t u rest : List Char} : Name s name t → Space t (value ++ u) →
      Loose (value ++ u) u → Space u rest → Entries s [(name, value)] rest
  | more {name : String} {entries : RawMembers} {value s t u w rest : List Char} :
      Name s name t → Space t (value ++ u) → Loose (value ++ u) u → Space u (',' :: w) →
      Entries w entries rest → Entries s ((name, value) :: entries) rest

/-- The members of an object, if there are any, and the brace that closes it. -/
inductive Body : List Char → RawMembers → List Char → Prop where
  | empty {s rest : List Char} : Space s ('}' :: rest) → Body s [] rest
  | of {entries : RawMembers} {s rest : List Char} :
      Entries s entries ('}' :: rest) → Body s entries rest

/-- An object with white space around it, and nothing else. -/
def ObjectDocument (cs : List Char) (entries : RawMembers) : Prop :=
  ∃ s rest, Space cs ('{' :: s) ∧ Body s entries rest ∧ Space rest []

/-- Just one member has the name, and its characters spell the value. -/
def Once (name : String) (v : Json) (entries : RawMembers) : Prop :=
  ∃ value, entries.filter (·.1 = name) = [(name, value)] ∧ Value Numeral value v []

theorem Entries.length_le {s rest : List Char} {entries : RawMembers}
    (h : Entries s entries rest) : entries.length ≤ s.length := by
  induction h with
  | one hname => exact Nat.succ_le_of_lt (Nat.zero_lt_of_lt hname.length_lt)
  | more hname ht hv hu _ ih =>
    have hnlength := hname.length_lt
    have htlength := ht.length_le
    have hvlength := hv.before.length_lt
    have hulength := hu.length_le
    rw [List.length_cons] at hulength ⊢
    omega

theorem Body.length_le {s rest : List Char} {entries : RawMembers}
    (h : Body s entries rest) : entries.length ≤ s.length := by
  cases h with
  | empty => exact Nat.zero_le _
  | of hentries => exact hentries.length_le

/-! ## The content of a field -/

/-- Four hexadecimal digits are the same whatever comes after them. -/
theorem Hex4.frame {s rest : List Char} {n : Nat} (h : Hex4 s n rest) :
    ∃ q, s = q ++ rest ∧ ∀ x, Hex4 (q ++ x) n x := by
  cases h with
  | of ha hb hc hd => exact ⟨[_, _, _, _], rfl, fun _ => .of ha hb hc hd⟩

/-- A character of a string is the same whatever comes after it. -/
theorem Glyph.frame {s rest : List Char} {c : Char} (h : Glyph s c rest) :
    ∃ q, s = q ++ rest ∧ ∀ x, Glyph (q ++ x) c x := by
  cases h with
  | raw hspace hquote hslash => exact ⟨[c], rfl, fun _ => .raw hspace hquote hslash⟩
  | short he => exact ⟨['\\', _], rfl, fun _ => .short he⟩
  | code hn =>
    obtain ⟨digits, rfl, hdigits⟩ := hn.frame
    exact ⟨'\\' :: 'u' :: digits, rfl, fun x => .code (hdigits x)⟩
  | pair hmax hh hl =>
    obtain ⟨high, rfl, hhigh⟩ := hh.frame
    obtain ⟨low, rfl, hlow⟩ := hl.frame
    refine ⟨'\\' :: 'u' :: (high ++ '\\' :: 'u' :: low), by simp, fun x => ?_⟩
    simp only [List.cons_append, List.append_assoc]
    exact .pair hmax (hhigh _) (hlow x)

/-- A string is the same whatever comes after it. -/
theorem Glyphs.frame {s cs rest : List Char} (h : Glyphs s cs rest) :
    ∃ q, s = q ++ rest ∧ ∀ x, Glyphs (q ++ x) cs x := by
  induction h with
  | close => exact ⟨['"'], rfl, fun _ => .close⟩
  | more hc _ ih =>
    obtain ⟨q, rfl, hq⟩ := ih
    obtain ⟨p, rfl, hp⟩ := hc.frame
    refine ⟨p ++ q, (List.append_assoc _ _ _).symm, fun x => ?_⟩
    rw [List.append_assoc]
    exact .more (hp (q ++ x)) (hq x)

/-- The value of a field is the same whatever comes after it. -/
theorem Value.frame_toJson {kind : Kind} {c : kind.Content} {s rest : List Char}
    (h : Value Numeral s (kind.toJson c) rest) :
    ∃ value, s = value ++ rest ∧ ∀ x, Value Numeral (value ++ x) (kind.toJson c) x := by
  cases kind with
  | text =>
    cases h with
    | text h =>
      obtain ⟨q, rfl, hq⟩ := h.frame
      exact ⟨'"' :: q, rfl, fun x => .text (hq x)⟩
  | boolean =>
    cases h with
    | yes => exact ⟨['t', 'r', 'u', 'e'], rfl, fun _ => .yes⟩
    | no => exact ⟨['f', 'a', 'l', 's', 'e'], rfl, fun _ => .no⟩

theorem value_toJson_append {kind : Kind} {c : kind.Content} {value : List Char}
    (rest : List Char) : Value Numeral (value ++ rest) (kind.toJson c) rest ↔
      Value Numeral value (kind.toJson c) [] := by
  constructor
  · intro h
    obtain ⟨q, hs, hq⟩ := h.frame_toJson
    obtain rfl := List.append_cancel_right hs
    have hend := hq []
    rwa [List.append_nil] at hend
  · intro h
    obtain ⟨q, hs, hq⟩ := h.frame_toJson
    rw [List.append_nil] at hs
    exact hs ▸ hq rest

end Grammar

open Grammar

/-- A value of another kind is never taken. -/
theorem wrongKind_ne_ok {α : Type} (wanted : Wanted) (s : List Char) (a : α) :
    wrongKind wanted s ≠ .ok a := by
  intro h
  -- a scalar is read to its end, and refused then
  have hscalar {β : Type} {x : Except Fault β} {found : β → Found} {rest : β → List Char}
      (h : (x >>= fun b => (Scan.refusePassed (.mismatch (.wrongKind (found b) wanted)) (rest b)
        : Except Fault α)) = .ok a) : False := by
    obtain ⟨b, -, hb⟩ := bind_eq_ok_iff.1 h
    cases hb
  unfold wrongKind at h
  split at h
  · cases h
  · split at h
    · exact hscalar h
    split at h
    · exact hscalar h
    split at h
    · exact hscalar h
    split at h
    · exact hscalar h
    split at h
    · exact hscalar h
    split at h
    · exact hscalar h
    split at h
    · cases h
    split at h
    · cases h
    · cases h

theorem readContent_space {kind : Kind} {s t : List Char} (h : Space s t) :
    readContent kind s = readContent kind t := by
  unfold readContent
  rw [h.skipSpace]

/-- The content of a field is read if and only if it is spelled. -/
theorem readContent_eq_ok_iff {kind : Kind} {c : kind.Content} {s rest : List Char} :
    readContent kind s = .ok (c, rest) ↔
      ∃ t, Space s t ∧ Value Numeral t (kind.toJson c) rest := by
  constructor
  · intro h
    have hspace := space_skipSpace s
    unfold readContent at h
    split at h
    · cases h
    · rename_i d t hs
      rw [hs] at hspace
      cases kind with
      | text =>
        have h : (if d = '"' then Scan.string t else wrongKind Wanted.text (d :: t)) =
          .ok (c, rest) := h
        split at h
        · rename_i hd
          subst hd
          obtain ⟨cs, hcs, rfl⟩ := Scan.string_eq_ok_iff.1 h
          exact ⟨_, hspace, .text hcs⟩
        · exact absurd h (wrongKind_ne_ok _ _ _)
      | boolean =>
        have h : (if d = 't' then (Scan.word "rue".toList t).map fun s => (true, s)
          else if d = 'f' then (Scan.word "alse".toList t).map fun s => (false, s)
          else wrongKind Wanted.boolean (d :: t)) = .ok (c, rest) := h
        split at h
        · rename_i hd
          obtain ⟨u, hu, heq⟩ := map_eq_ok_iff.1 h
          cases heq
          rw [hd, Scan.word_eq_ok_iff.1 hu] at hspace
          exact ⟨_, hspace, .yes⟩
        split at h
        · rename_i hd
          obtain ⟨u, hu, heq⟩ := map_eq_ok_iff.1 h
          cases heq
          rw [hd, Scan.word_eq_ok_iff.1 hu] at hspace
          exact ⟨_, hspace, .no⟩
        · exact absurd h (wrongKind_ne_ok _ _ _)
  · rintro ⟨t, hs, hv⟩
    rw [readContent_space hs]
    cases kind with
    | text =>
      cases hv with
      | text hcs =>
        have hstring := Scan.string_eq_ok_iff.2 ⟨_, hcs, rfl⟩
        unfold readContent
        rw [(Space.refl _).skipSpace_cons (by decide)]
        exact hstring
    | boolean =>
      cases hv with
      | yes => rfl
      | no => rfl

/-! ## Slots -/

section
variable {name : String} {v : Json} {value : List Char} {entries : RawMembers}

theorem once_cons_self : Once name v ((name, value) :: entries) ↔
    Value Numeral value v [] ∧ ∀ e ∈ entries, e.1 ≠ name := by
  have hothers : entries.filter (·.1 = name) = [] ↔ ∀ e ∈ entries, e.1 ≠ name := by
    simp [List.filter_eq_nil_iff]
  unfold Once
  rw [List.filter_cons_of_pos (by simp), ← hothers]
  constructor
  · rintro ⟨found, hfilter, hv⟩
    obtain ⟨heq, hnone⟩ := List.cons.inj hfilter
    cases heq
    exact ⟨hv, hnone⟩
  · rintro ⟨hv, hnone⟩
    exact ⟨value, by rw [hnone], hv⟩

theorem once_singleton : Once name v [(name, value)] ↔ Value Numeral value v [] := by
  simp [once_cons_self]

theorem once_cons_of_ne {e : String × List Char} (h : e.1 ≠ name) :
    Once name v (e :: entries) ↔ Once name v entries := by
  unfold Once
  rw [List.filter_cons_of_neg (by simpa using h)]

theorem not_once (h : ∀ e ∈ entries, e.1 ≠ name) : ¬ Once name v entries := by
  rintro ⟨value, hfilter, -⟩
  have hmem : (name, value) ∈ entries.filter (·.1 = name) := hfilter ▸ List.mem_cons_self
  exact h _ (List.mem_filter.1 hmem).1 rfl

/-- A member stands once among members whose names are all different. -/
theorem once_of_mem (hnodup : (entries.map Prod.fst).Nodup) (hmem : (name, value) ∈ entries)
    (hv : Value Numeral value v []) : Once name v entries := by
  induction entries with
  | nil => cases hmem
  | cons e entries ih =>
    obtain ⟨hnew, hnodup⟩ := List.nodup_cons.1 hnodup
    rcases List.mem_cons.1 hmem with rfl | hmem
    · refine once_cons_self.2 ⟨hv, fun d hd heq => hnew ?_⟩
      exact List.mem_map.2 ⟨d, hd, heq⟩
    · have hne : e.1 ≠ name := fun heq => hnew (List.mem_map.2 ⟨_, hmem, heq.symm⟩)
      exact (once_cons_of_ne hne).2 (ih hnodup hmem)

end

/-- What members put into the slot of a field: nothing if none has its name, and what the only one
that has holds, into a free slot. -/
inductive FillsSlot (f : Field) : Option f.kind.Content → RawMembers →
    Option f.kind.Content → Prop where
  | leave {slot : Option f.kind.Content} {entries : RawMembers} :
      (∀ e ∈ entries, e.1 ≠ f.name) → FillsSlot f slot entries slot
  | put {c : f.kind.Content} {entries : RawMembers} :
      Once f.name (f.kind.toJson c) entries → FillsSlot f none entries (some c)

/-- What members put into the slots of some fields. -/
def Fills : (fields : List Field) → Slots fields → RawMembers → Slots fields → Prop
  | [], (), _, () => True
  | f :: fields, (slot, slots), entries, (slot', slots') =>
    FillsSlot f slot entries slot' ∧ Fills fields slots entries slots'

theorem fillsSlot_of_forall_ne {f : Field} {slot slot' : Option f.kind.Content}
    {entries : RawMembers} (h : ∀ e ∈ entries, e.1 ≠ f.name) :
    FillsSlot f slot entries slot' ↔ slot' = slot := by
  constructor
  · rintro (_ | honce)
    · rfl
    · exact absurd honce (not_once h)
  · rintro rfl
    exact .leave h

/-- Members that are no fields change no slot. -/
theorem fills_of_forall_ne {entries : RawMembers} : {fields : List Field} →
    {slots slots' : Slots fields} → (∀ e ∈ entries, ∀ f ∈ fields, e.1 ≠ f.name) →
    (Fills fields slots entries slots' ↔ slots' = slots)
  | [], (), (), _ => iff_of_true trivial rfl
  | f :: fields, (slot, slots), (slot', slots'), h => by
    have hslot : FillsSlot f slot entries slot' ↔ slot' = slot :=
      fillsSlot_of_forall_ne fun e he => h e he f List.mem_cons_self
    have hslots : Fills fields slots entries slots' ↔ slots' = slots :=
      fills_of_forall_ne fun e he g hg => h e he g (List.mem_cons_of_mem f hg)
    exact (and_congr hslot hslots).trans Prod.mk_inj.symm

theorem fillsSlot_cons {f : Field} {slot slot' : Option f.kind.Content} {e : String × List Char}
    {entries : RawMembers} : FillsSlot f slot (e :: entries) slot' ↔
      ∃ mid, FillsSlot f slot [e] mid ∧ FillsSlot f mid entries slot' := by
  have hsingle (h : e.1 ≠ f.name) : ∀ d ∈ [e], d.1 ≠ f.name := by simpa using h
  by_cases he : e.1 = f.name
  · obtain ⟨name, value⟩ := e
    obtain rfl : name = f.name := he
    constructor
    · rintro (hnone | honce)
      · exact absurd rfl (hnone _ List.mem_cons_self)
      · obtain ⟨hv, hnone⟩ := once_cons_self.1 honce
        exact ⟨_, .put (once_singleton.2 hv), .leave hnone⟩
    · rintro ⟨mid, hnone | honce, hlater⟩
      · exact absurd rfl (hnone _ List.mem_cons_self)
      · have hv := once_singleton.1 honce
        cases hlater with
        | leave hnone => exact .put (once_cons_self.2 ⟨hv, hnone⟩)
  · constructor
    · rintro (hnone | honce)
      · exact ⟨_, .leave (hsingle he), .leave fun d hd => hnone d (List.mem_cons_of_mem e hd)⟩
      · exact ⟨_, .leave (hsingle he), .put ((once_cons_of_ne he).1 honce)⟩
    · rintro ⟨mid, hfirst, hlater⟩
      rw [fillsSlot_of_forall_ne (hsingle he)] at hfirst
      subst hfirst
      rcases hlater with hnone | honce
      · exact .leave (List.forall_mem_cons.2 ⟨he, hnone⟩)
      · exact .put ((once_cons_of_ne he).2 honce)

/-- Members fill the slots one after the other. -/
theorem fills_cons {e : String × List Char} {entries : RawMembers} :
    {fields : List Field} → {slots slots' : Slots fields} →
    (Fills fields slots (e :: entries) slots' ↔
      ∃ mid, Fills fields slots [e] mid ∧ Fills fields mid entries slots')
  | [], (), () => ⟨fun _ => ⟨(), trivial, trivial⟩, fun _ => trivial⟩
  | f :: fields, (slot, slots), (slot', slots') => by
    constructor
    · rintro ⟨h, hs⟩
      obtain ⟨mid, hfirst, hlater⟩ := fillsSlot_cons.1 h
      obtain ⟨mids, hfirsts, hlaters⟩ := fills_cons.1 hs
      exact ⟨(mid, mids), ⟨hfirst, hfirsts⟩, hlater, hlaters⟩
    · rintro ⟨⟨mid, mids⟩, ⟨hfirst, hfirsts⟩, hlater, hlaters⟩
      exact ⟨fillsSlot_cons.2 ⟨mid, hfirst, hlater⟩, fills_cons.2 ⟨mids, hfirsts, hlaters⟩⟩

/-- The slots of an object are all filled with the contents of a row if and only if each field of
the row stands once among the members. -/
theorem exists_fills_iff {entries : RawMembers} : {fields : List Field} →
    {row : Row fields} →
    ((∃ slots, Fills fields (.empty fields) entries slots ∧
        Slots.complete fields slots = .ok row) ↔
      ∀ m ∈ Row.members fields row, Once m.1 m.2 entries)
  | [], () => ⟨fun _ => nofun, fun _ => ⟨(), trivial, rfl⟩⟩
  | f :: fields, (c, row) => by
    have ih : (∃ slots, Fills fields (.empty fields) entries slots ∧
        Slots.complete fields slots = .ok row) ↔ _ := exists_fills_iff
    rw [Row.members, List.forall_mem_cons, ← ih]
    constructor
    · rintro ⟨⟨slot, slots⟩, ⟨hslot, hslots⟩, hcomplete⟩
      cases hslot with
      | leave => cases hcomplete
      | put honce =>
        obtain ⟨row', hrow, heq⟩ := map_eq_ok_iff.1 hcomplete
        cases heq
        exact ⟨honce, slots, hslots, hrow⟩
    · rintro ⟨honce, slots, hslots, hrow⟩
      exact ⟨(some c, slots), ⟨.put honce, hslots⟩, map_eq_ok_iff.2 ⟨row, hrow, rfl⟩⟩

/-! ## The rest of a member -/

section
variable {name : String} {s t rest value : List Char}

theorem forall_ne_of_notMem {fields : List Field} (h : name ∉ fields.map (·.name)) :
    ∀ e ∈ [(name, value)], ∀ f ∈ fields, e.1 ≠ f.name := by
  intro e he f hf heq
  rw [List.mem_singleton.1 he] at heq
  exact h (List.mem_map.2 ⟨f, hf, heq.symm⟩)

/-- A member is read into the slots that it fills. -/
theorem readInto_of_fills (hcolon : Space s (':' :: t)) (ht : Space t (value ++ rest))
    (hv : Loose (value ++ rest) rest) (hrest : Scan.Stops rest) : {fields : List Field} →
    {slots slots' : Slots fields} → (fields.map (·.name)).Nodup →
    Fills fields slots [(name, value)] slots' → readInto name s fields slots = .ok (slots', rest)
  | [], (), (), _, _ => by
    rw [readInto]
    simp only [Scan.colon_eq_ok_iff.2 hcolon, pass_of_loose ht hv hrest]
    rfl
  | f :: fields, (slot, slots), (slot', slots'), hnodup, ⟨hslot, hslots⟩ => by
    obtain ⟨hnew, hnodup⟩ := List.nodup_cons.1 hnodup
    rw [readInto]
    by_cases hname : f.name = name
    · subst hname
      rw [fills_of_forall_ne (forall_ne_of_notMem hnew)] at hslots
      subst hslots
      cases hslot with
      | leave hnone => exact absurd rfl (hnone _ List.mem_cons_self)
      | put honce =>
        have hcontent := once_singleton.1 honce
        have hread := readContent_eq_ok_iff.2 ⟨_, ht, (value_toJson_append rest).2 hcontent⟩
        simp only [if_true, Option.isSome_none, Bool.false_eq_true, if_false,
          Scan.colon_eq_ok_iff.2 hcolon, hread]
        rfl
    · have hne : ∀ e ∈ [(name, value)], e.1 ≠ f.name := by simpa using Ne.symm hname
      rw [fillsSlot_of_forall_ne hne] at hslot
      subst hslot
      simp only [if_neg hname, readInto_of_fills hcolon ht hv hrest hnodup hslots]
      rfl

/-- What is read of a member after its name is a colon and a loose value, which fills the slots. -/
theorem fills_of_readInto {fields : List Field} {slots slots' : Slots fields}
    (hnodup : (fields.map (·.name)).Nodup)
    (h : readInto name s fields slots = .ok (slots', rest)) :
    ∃ t value, Space s (':' :: t) ∧ Space t (value ++ rest) ∧ Loose (value ++ rest) rest ∧
      Fills fields slots [(name, value)] slots' := by
  induction fields with
  | nil =>
    -- the name is no field, and the value is passed over
    obtain ⟨⟩ := slots
    rw [readInto] at h
    split at h
    · cases h
    · rename_i t hcolon
      obtain ⟨u, hpass, heq⟩ := map_eq_ok_iff.1 h
      cases heq
      obtain ⟨v, hs, hv⟩ := loose_of_pass hpass
      obtain ⟨value, rfl⟩ := hv.append
      exact ⟨t, value, Scan.colon_eq_ok_iff.1 hcolon, hs, hv, trivial⟩
  | cons f fields ih =>
    obtain ⟨slot, slots⟩ := slots
    obtain ⟨hnew, hnodup⟩ := List.nodup_cons.1 hnodup
    rw [readInto] at h
    split at h
    · rename_i hname
      subst hname
      split at h
      · cases h
      -- the slot is free, and the value becomes its content
      · rename_i hfree
        split at h
        · cases h
        · rename_i t hcolon
          obtain ⟨⟨c, u⟩, hread, heq⟩ := map_eq_ok_iff.1 h
          cases heq
          obtain ⟨v, hs, hv⟩ := readContent_eq_ok_iff.1 hread
          obtain ⟨value, rfl, -⟩ := hv.frame_toJson
          have hcontent := (value_toJson_append rest).1 hv
          have honce : Once f.name (f.kind.toJson c) [(f.name, value)] :=
            once_singleton.2 hcontent
          obtain rfl : slot = none := by simpa using hfree
          exact ⟨t, value, Scan.colon_eq_ok_iff.1 hcolon, hs, hv.loose id, .put honce,
            (fills_of_forall_ne (forall_ne_of_notMem hnew)).2 rfl⟩
    · rename_i hname
      obtain ⟨⟨slots'', u⟩, hread, heq⟩ := map_eq_ok_iff.1 h
      cases heq
      obtain ⟨t, value, hcolon, hs, hv, hfills⟩ := ih hnodup hread
      have hne : ∀ e ∈ [(name, value)], e.1 ≠ f.name := by simpa using Ne.symm hname
      exact ⟨t, value, hcolon, hs, hv, .leave hne, hfills⟩

end

/-! ## The members of an object -/

section
variable {fields : List Field} {slots slots' : Slots fields} {fuel : Nat}
  {s t u w rest : List Char}

theorem readFields_close {first : Bool} (h : Space s ('}' :: rest)) :
    readFields (fuel + 1) fields slots first s = .ok (slots, rest) := by
  unfold readFields
  rw [h.skipSpace_cons (by decide)]
  rfl

theorem readFields_comma (h : Space s (',' :: w)) (hw : Space w ('"' :: t)) :
    readFields (fuel + 1) fields slots false s = readFields (fuel + 1) fields slots true w := by
  rw [readFields, readFields, h.skipSpace_cons (by decide), hw.skipSpace_cons (by decide)]
  simp only [Char.reduceEq, if_false, if_true, Bool.false_eq_true,
    hw.skipSpace_cons (show Scan.isSpace '"' = false by decide)]

theorem readFields_member {cs : List Char} (h : Space s ('"' :: t)) (hname : Glyphs t cs u)
    (hinto : readInto (String.ofList cs) u fields slots = .ok (slots', w)) :
    readFields (fuel + 1) fields slots true s = readFields fuel fields slots' false w := by
  rw [readFields, h.skipSpace_cons (by decide)]
  simp only [Char.reduceEq, if_false, if_true, Scan.string_eq_ok_iff.2 ⟨cs, hname, rfl⟩, hinto]

/-- The members of an object are read into the slots that they fill. -/
theorem readFields_of_entries (hnodup : (fields.map (·.name)).Nodup) {e : List Char}
    {entries : RawMembers} (h : Entries s entries e) : e = '}' :: rest →
    Fills fields slots entries slots' → entries.length < fuel →
    readFields fuel fields slots true s = .ok (slots', rest) := by
  induction h generalizing slots fuel with
  | one hname ht hv hu =>
    rintro rfl hfills hfuel
    obtain ⟨fuel, rfl⟩ := Nat.exists_eq_add_of_le' (show 2 ≤ fuel from hfuel)
    obtain ⟨hquote, hglyphs, hcolon⟩ := hname
    have hinto := readInto_of_fills hcolon ht hv (hu.stops (stops_bracket (by decide))) hnodup
      hfills
    rw [readFields_member hquote hglyphs hinto, readFields_close hu]
  | more hname ht hv hu hw ih =>
    rintro rfl hfills hfuel
    rw [List.length_cons] at hfuel
    obtain ⟨fuel, rfl⟩ := Nat.exists_eq_add_of_le' (show 2 ≤ fuel by omega)
    obtain ⟨mid, hfirst, hlater⟩ := fills_cons.1 hfills
    obtain ⟨hquote, hglyphs, hcolon⟩ := hname
    have hinto := readInto_of_fills hcolon ht hv (hu.stops (stops_bracket (by decide))) hnodup
      hfirst
    obtain ⟨x, hx⟩ : ∃ x, Space _ ('"' :: x) := by
      cases hw with
      | one hname | more hname =>
        obtain ⟨hquote, -, -⟩ := hname
        exact ⟨_, hquote⟩
    rw [readFields_member hquote hglyphs hinto, readFields_comma hu hx,
      ih rfl hlater (by omega)]

theorem readFields_of_body (hnodup : (fields.map (·.name)).Nodup)
    {entries : RawMembers} (h : Body s entries rest)
    (hfills : Fills fields slots entries slots') (hfuel : entries.length < fuel) :
    readFields fuel fields slots true s = .ok (slots', rest) := by
  cases h with
  | empty hclose =>
    obtain ⟨fuel, rfl⟩ := Nat.exists_eq_succ_of_ne_zero (Nat.ne_of_gt hfuel)
    rw [readFields_close hclose, (fills_of_forall_ne (by simp)).1 hfills]
  | of hentries => exact readFields_of_entries hnodup hentries rfl hfills hfuel

theorem readFields_true_eq_ok (h : readFields (fuel + 1) fields slots true s = .ok (slots', rest)) :
    Space s ('}' :: rest) ∧ slots' = slots ∨ ∃ t, Space s ('"' :: t) := by
  have hspace := space_skipSpace s
  rw [readFields] at h
  split at h
  · cases h
  · rename_i c t hs
    rw [hs] at hspace
    split at h
    · rename_i hc
      subst hc
      cases h
      exact .inl ⟨hspace, rfl⟩
    · rw [if_pos rfl] at h
      split at h
      · rename_i hc
        exact .inr ⟨t, hc ▸ hspace⟩
      · cases h

theorem readFields_false_eq_ok
    (h : readFields (fuel + 1) fields slots false s = .ok (slots', rest)) :
    Space s ('}' :: rest) ∧ slots' = slots ∨ ∃ w t, Space s (',' :: w) ∧ Space w ('"' :: t) := by
  have hspace := space_skipSpace s
  rw [readFields] at h
  split at h
  · cases h
  · rename_i c t hs
    rw [hs] at hspace
    split at h
    · rename_i hc
      subst hc
      cases h
      exact .inl ⟨hspace, rfl⟩
    · rw [if_neg Bool.false_ne_true] at h
      split at h
      · rename_i hc
        subst hc
        have hafter := space_skipSpace t
        split at h
        · cases h
        · rename_i d u ht
          rw [ht] at hafter
          split at h
          · rename_i hd
            exact .inr ⟨t, u, hspace, hd ▸ hafter⟩
          · split at h
            · cases h
            · cases h
      · cases h

theorem readFields_quote_eq_ok (hquote : Space s ('"' :: t))
    (h : readFields (fuel + 1) fields slots true s = .ok (slots', rest)) :
    ∃ cs u mid w, Glyphs t cs u ∧ readInto (String.ofList cs) u fields slots = .ok (mid, w) ∧
      readFields fuel fields mid false w = .ok (slots', rest) := by
  rw [readFields, hquote.skipSpace_cons (by decide)] at h
  simp only [Char.reduceEq, if_false, if_true] at h
  split at h
  · cases h
  · rename_i name u hname
    obtain ⟨cs, hcs, rfl⟩ := Scan.string_eq_ok_iff.1 hname
    split at h
    · cases h
    · rename_i mid w hinto
      exact ⟨cs, u, mid, w, hcs, hinto, h⟩

/-- What is read of an object are members that fill the slots. -/
theorem body_of_readFields (hnodup : (fields.map (·.name)).Nodup)
    (h : readFields fuel fields slots true s = .ok (slots', rest)) :
    ∃ entries, Body s entries rest ∧ Fills fields slots entries slots' := by
  induction fuel generalizing slots s with
  | zero =>
    rw [readFields] at h
    cases h
  | succ fuel ih =>
    obtain ⟨hclose, rfl⟩ | ⟨t, hquote⟩ := readFields_true_eq_ok h
    · exact ⟨[], .empty hclose, (fills_of_forall_ne (by simp)).2 rfl⟩
    obtain ⟨cs, u, mid, w, hcs, hinto, hlater⟩ := readFields_quote_eq_ok hquote h
    obtain ⟨x, value, hcolon, hx, hv, hfirst⟩ := fills_of_readInto hnodup hinto
    have hname : Name s (String.ofList cs) x := .of hquote hcs hcolon
    -- the member is the last one, or the others follow a comma
    cases fuel with
    | zero =>
      rw [readFields] at hlater
      cases hlater
    | succ fuel =>
      obtain ⟨hclose, rfl⟩ | ⟨y, z, hcomma, hz⟩ := readFields_false_eq_ok hlater
      · exact ⟨_, .of (.one hname hx hv hclose), hfirst⟩
      · rw [readFields_comma hcomma hz] at hlater
        obtain ⟨entries, hbody, hothers⟩ := ih hlater
        refine ⟨_, .of (.more hname hx hv hcomma ?_), fills_cons.2 ⟨mid, hfirst, hothers⟩⟩
        cases hbody with
        | empty hclose =>
          have hfront := hz.skipSpace_cons (by decide)
          rw [hclose.skipSpace_cons (by decide)] at hfront
          cases hfront
        | of hentries => exact hentries

end

end CompileSession.Json
