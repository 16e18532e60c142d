import CompileSession.Text.Octets
import CompileSession.Text.Percent

/-!
# What is written in UTF-8 is read back

The octets of a character come one at a time: the first tells how many follow and brings the
highest bits, and each of the others brings six more. Reading stands between characters again with
the last of them, so what comes behind a character is read as if nothing stood before it.

Results:
1. `scalarsFrom_utf8EncodeChar`: the octets of one character are read as it, whatever follows.
2. `decodeLossy_encode`: a text is read back from its octets, and nothing in it is replaced.
3. `Percent.decode_encodeChar`: a character written with percent signs stands for its octets.
-/

namespace CompileSession.Text

/-! ## One octet -/

section
variable {missing bits n : Nat} {low high : UInt8}

/-- An octet that may come next brings its six bits. -/
theorem step_inside (hn : n < 64) (hlow : low.toNat ≤ n + 128) (hhigh : n + 128 ≤ high.toNat) :
    Reading.step (UInt8.ofNat (n + 128)) (.inside missing bits low high) =
      if missing ≤ 1 then ([some (Char.ofNat (64 * bits + n))], .between)
      else ([], .inside (missing - 1) (64 * bits + n) 0x80 0xbf) := by
  have hoctet : (UInt8.ofNat (n + 128)).toNat = n + 128 := by
    rw [UInt8.toNat_ofNat', Nat.mod_eq_of_lt (by omega)]
  have hrange : low ≤ UInt8.ofNat (n + 128) ∧ UInt8.ofNat (n + 128) ≤ high := by
    rw [UInt8.le_iff_toNat_le, UInt8.le_iff_toNat_le, hoctet]
    exact ⟨hlow, hhigh⟩
  unfold Reading.step
  simp only [if_pos hrange, hoctet, Nat.add_sub_cancel]

theorem scalarsFrom_second (hn : n < 64) (hlow : low.toNat ≤ n + 128)
    (hhigh : n + 128 ≤ high.toNat) (rest : List UInt8) :
    scalarsFrom (.inside (missing + 2) bits low high) (UInt8.ofNat (n + 128) :: rest) =
      scalarsFrom (.inside (missing + 1) (64 * bits + n) 0x80 0xbf) rest := by
  rw [scalarsFrom, step_inside hn hlow hhigh]
  rfl

theorem scalarsFrom_last (hn : n < 64) (rest : List UInt8) :
    scalarsFrom (.inside 1 bits 0x80 0xbf) (UInt8.ofNat (n + 128) :: rest) =
      some (Char.ofNat (64 * bits + n)) :: scalarsFrom .between rest := by
  have hhigh : n + 128 ≤ (0xbf : UInt8).toNat := Nat.add_le_add_right (Nat.le_of_lt_succ hn) 128
  rw [scalarsFrom, step_inside hn (Nat.le_add_left _ _) hhigh]
  rfl

end

/-! ## The first octets of a character -/

deriving instance DecidableEq for Reading

section
variable {a b : Nat}

theorem scalarsFrom_one (ha : a < 128) (rest : List UInt8) :
    scalarsFrom .between (UInt8.ofNat a :: rest) =
      some (Char.ofNat a) :: scalarsFrom .between rest := by
  have hoctet : (UInt8.ofNat a).toNat = a := by
    rw [UInt8.toNat_ofNat', Nat.mod_eq_of_lt (by omega)]
  have hless : UInt8.ofNat a < 0x80 := by
    rw [UInt8.lt_iff_toNat_lt, hoctet]
    exact ha
  rw [scalarsFrom, Reading.step, begin, if_pos hless, hoctet]
  rfl

/-- The first octet of two leaves out what one octet would do for. -/
theorem scalarsFrom_two (hlow : 2 ≤ a) (hhigh : a < 32) (rest : List UInt8) :
    scalarsFrom .between (UInt8.ofNat (a + 192) :: rest) =
      scalarsFrom (.inside 1 a 0x80 0xbf) rest := by
  have all : ∀ n : Fin 32, 2 ≤ n.val →
      begin (UInt8.ofNat (n + 192)) = ([], .inside 1 n 0x80 0xbf) := by decide
  rw [scalarsFrom, Reading.step, all ⟨a, hhigh⟩ hlow, List.nil_append]

/-- The first two octets of three or four. The second is not below `low` if the first one brings no
bits, and not above `high` if it brings the bits `bounded`. -/
theorem scalarsFrom_begin {missing bounded : Nat} {first low high : UInt8}
    (hbegin : begin first =
      ([], .inside (missing + 2) a (if a = 0 then low else 0x80)
        (if a = bounded then high else 0xbf)))
    (hb : b < 64) (hlow : a = 0 → low.toNat ≤ b + 128)
    (hhigh : a = bounded → b + 128 ≤ high.toNat) (rest : List UInt8) :
    scalarsFrom .between (first :: UInt8.ofNat (b + 128) :: rest) =
      scalarsFrom (.inside (missing + 1) (64 * a + b) 0x80 0xbf) rest := by
  rw [scalarsFrom, Reading.step, hbegin, List.nil_append, scalarsFrom_second hb]
  · split
    · next h => exact hlow h
    · exact Nat.le_add_left _ _
  · split
    · next h => exact hhigh h
    · exact Nat.add_le_add_right (Nat.le_of_lt_succ hb) 128

/-- The first two octets of three leave out what two octets would do for, and the surrogates. -/
theorem scalarsFrom_three (ha : a < 16) (hb : b < 64) (hlow : a = 0 → 32 ≤ b)
    (hhigh : a = 13 → b < 32) (rest : List UInt8) :
    scalarsFrom .between (UInt8.ofNat (a + 224) :: UInt8.ofNat (b + 128) :: rest) =
      scalarsFrom (.inside 1 (64 * a + b) 0x80 0xbf) rest := by
  have all : ∀ n : Fin 16, begin (UInt8.ofNat (n + 224)) =
      ([], .inside 2 n (if n.val = 0 then 0xa0 else 0x80)
        (if n.val = 13 then 0x9f else 0xbf)) := by decide
  exact scalarsFrom_begin (all ⟨a, ha⟩) hb (fun h => Nat.add_le_add_right (hlow h) 128)
    (fun h => Nat.add_le_add_right (Nat.le_of_lt_succ (hhigh h)) 128) rest

/-- The first two octets of four leave out what three octets would do for, and what lies past the
last character. -/
theorem scalarsFrom_four (ha : a < 5) (hb : b < 64) (hlow : a = 0 → 16 ≤ b)
    (hhigh : a = 4 → b < 16) (rest : List UInt8) :
    scalarsFrom .between (UInt8.ofNat (a + 240) :: UInt8.ofNat (b + 128) :: rest) =
      scalarsFrom (.inside 2 (64 * a + b) 0x80 0xbf) rest := by
  have all : ∀ n : Fin 5, begin (UInt8.ofNat (n + 240)) =
      ([], .inside 3 n (if n.val = 0 then 0x90 else 0x80)
        (if n.val = 4 then 0x8f else 0xbf)) := by decide
  exact scalarsFrom_begin (all ⟨a, ha⟩) hb (fun h => Nat.add_le_add_right (hlow h) 128)
    (fun h => Nat.add_le_add_right (Nat.le_of_lt_succ (hhigh h)) 128) rest

end

/-! ## Characters -/

/-- The octets of a character are read as that character, whatever follows them. -/
theorem scalarsFrom_utf8EncodeChar (c : Char) (rest : List UInt8) :
    scalarsFrom .between (String.utf8EncodeChar c ++ rest) =
      some c :: scalarsFrom .between rest := by
  have hc : Char.ofNat c.val.toNat = c := Char.ofNat_toNat c
  have hvalid : c.val.toNat < 0xd800 ∨ 0xdfff < c.val.toNat ∧ c.val.toNat < 0x110000 := c.valid
  unfold String.utf8EncodeChar
  generalize c.val.toNat = n at hc hvalid
  subst hc
  simp only
  by_cases hone : n ≤ 127
  · rw [if_pos hone, List.singleton_append, scalarsFrom_one (by omega)]
  by_cases htwo : n ≤ 2047
  · have hlead : n / 64 % 32 = n / 64 := by omega
    have hbits : 64 * (n / 64) + n % 64 = n := by omega
    rw [if_neg hone, if_pos htwo, hlead]
    simp only [List.cons_append, List.nil_append]
    rw [scalarsFrom_two (by omega) (by omega), scalarsFrom_last (by omega), hbits]
  by_cases hthree : n ≤ 65535
  · have hlead : n / 4096 % 16 = n / 4096 := by omega
    have hbits : 64 * (64 * (n / 4096) + n / 64 % 64) + n % 64 = n := by omega
    rw [if_neg hone, if_neg htwo, if_pos hthree, hlead]
    simp only [List.cons_append, List.nil_append]
    rw [scalarsFrom_three (by omega) (by omega) (by omega) (by omega), scalarsFrom_last (by omega),
      hbits]
  · have hlead : n / 262144 % 8 = n / 262144 := by omega
    have hbits : 64 * (64 * (64 * (n / 262144) + n / 4096 % 64) + n / 64 % 64) + n % 64 = n := by
      omega
    rw [if_neg hone, if_neg htwo, if_neg hthree, hlead]
    simp only [List.cons_append, List.nil_append]
    rw [scalarsFrom_four (by omega) (by omega) (by omega) (by omega),
      scalarsFrom_second (by omega) (Nat.le_add_left _ _) (by show _ ≤ 191; omega),
      scalarsFrom_last (by omega), hbits]

/-- A text is read back from its octets. -/
theorem scalars_encode (cs : List Char) : scalars (encode cs) = cs.map some := by
  unfold scalars encode
  induction cs with
  | nil => rfl
  | cons c cs ih => rw [List.flatMap_cons, scalarsFrom_utf8EncodeChar, ih, List.map_cons]

theorem decodeLossy_encode (cs : List Char) : decodeLossy (encode cs) = String.ofList cs := by
  unfold decodeLossy
  rw [scalars_encode, List.map_map]
  exact congrArg String.ofList (List.map_id' cs)

/-! ## Percent signs -/

namespace Percent

/-- What is not a percent sign stands for itself. -/
theorem decode_cons {c : Char} (h : c ≠ '%') (cs : List Char) :
    decode (c :: cs) = String.utf8EncodeChar c ++ decode cs := by
  rw [decode]
  exact fun _ _ _ heq _ => h heq

theorem decode_encodeOctet (b : UInt8) (cs : List Char) :
    decode (encodeOctet b ++ cs) = b :: decode cs := by
  have hb : b.toNat < 256 := b.toNat_lt
  have hhigh : b.toNat / 16 < 16 := by omega
  have hlow : b.toNat % 16 < 16 := by omega
  have hvalue : 16 * (b.toNat / 16) + b.toNat % 16 = b.toNat := Nat.div_add_mod _ _
  unfold encodeOctet
  simp only [List.cons_append, List.nil_append]
  rw [decode, hexDigit?_hexCapital hhigh, hexDigit?_hexCapital hlow]
  simp only [hvalue, UInt8.ofNat_toNat]

/-- A character written octet by octet stands for its octets. -/
theorem decode_encodeChar (c : Char) (cs : List Char) :
    decode (encodeChar c ++ cs) = String.utf8EncodeChar c ++ decode cs := by
  unfold encodeChar
  induction String.utf8EncodeChar c with
  | nil => rfl
  | cons b octets ih =>
    rw [List.flatMap_cons, List.append_assoc, decode_encodeOctet, ih, List.cons_append]

end Percent

end CompileSession.Text
