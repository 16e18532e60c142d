import CompileSession.Diagnostic
import CompileSession.Text.Octets

/-!
# Line breaks in the text of a diagnostic

The text of a diagnostic comes with its line breaks written as a backslash and an `n`, and
`unescape` reads them from left to right. Two such pairs never overlap, so the number of pairs that
stand in a text is the number of those read, and no pair arises where two pieces meet: a backslash
that is kept had no `n` behind it, and what is read instead of a pair is a line feed.

Results:
1. `measure_unescape`: what reading the line breaks does to a quantity that adds up over the
   characters, such as the length.
2. `writtenBreaks_unescape`: no line break stays written.
3. `writeBreaks_unescape`: writing the line breaks again gives the text back if it had no line feed.
4. `Diagnostic.displayText_lossless`: all of it, for the text shown.
-/

namespace CompileSession

/-- The number of places in `cs` where a backslash stands right before an `n`. -/
def writtenBreaks (cs : List Char) : Nat := (cs.zip cs.tail).count ('\\', 'n')

/-- `cs` with every line feed written as a backslash and an `n`. -/
def writeBreaks (cs : List Char) : List Char :=
  cs.flatMap fun c => if c = '\n' then ['\\', 'n'] else [c]

/-! ## Counting pairs -/

@[simp]
theorem writtenBreaks_nil : writtenBreaks [] = 0 := rfl

theorem writtenBreaks_cons_cons (c d : Char) (cs : List Char) :
    writtenBreaks (c :: d :: cs) =
      writtenBreaks (d :: cs) + if c = '\\' ∧ d = 'n' then 1 else 0 := by
  simp [writtenBreaks, List.count_cons]

/-- A character in front of no pair of its own adds none. -/
theorem writtenBreaks_cons {c : Char} {cs : List Char}
    (h : ∀ rest, c = '\\' → cs = 'n' :: rest → False) :
    writtenBreaks (c :: cs) = writtenBreaks cs := by
  cases cs with
  | nil => rfl
  | cons d cs =>
    have hpair : ¬ (c = '\\' ∧ d = 'n') := fun ⟨hc, hd⟩ => h cs hc (hd ▸ rfl)
    rw [writtenBreaks_cons_cons, if_neg hpair, Nat.add_zero]

theorem writtenBreaks_pair (cs : List Char) :
    writtenBreaks ('\\' :: 'n' :: cs) = writtenBreaks cs + 1 := by
  have hn : writtenBreaks ('n' :: cs) = writtenBreaks cs :=
    writtenBreaks_cons fun _ h => absurd h (by decide)
  rw [writtenBreaks_cons_cons, hn, if_pos ⟨rfl, rfl⟩]

theorem writtenBreaks_le_append (before cs : List Char) :
    writtenBreaks cs ≤ writtenBreaks (before ++ cs) := by
  induction before with
  | nil => exact Nat.le_refl _
  | cons c before ih =>
    refine Nat.le_trans ih ?_
    rw [List.cons_append]
    cases before ++ cs with
    | nil => exact Nat.zero_le _
    | cons d rest =>
      rw [writtenBreaks_cons_cons]
      exact Nat.le_add_right _ _

/-- Where there is a pair, it is counted. -/
theorem ne_of_writtenBreaks_eq_zero {cs : List Char} (h : writtenBreaks cs = 0)
    (before after : List Char) : cs ≠ before ++ '\\' :: 'n' :: after := by
  rintro rfl
  have hle := writtenBreaks_le_append before ('\\' :: 'n' :: after)
  rw [h, writtenBreaks_pair] at hle
  exact Nat.not_succ_le_zero _ hle

/-! ## Reading line breaks -/

/-- A quantity that adds up over the characters, `w` telling what each of them adds, changes by as
much as a line feed differs from a pair, once for each pair. -/
theorem measure_unescape {m : List Char → Nat} {w : Char → Nat}
    (hm : ∀ c cs, m (c :: cs) = w c + m cs) (cs : List Char) :
    m (unescape cs) + writtenBreaks cs * (w '\\' + w 'n') =
      m cs + writtenBreaks cs * w '\n' := by
  fun_induction unescape cs with
  | case1 => simp
  | case2 rest ih =>
    rw [hm, hm, hm, writtenBreaks_pair, Nat.succ_mul, Nat.succ_mul]
    omega
  | case3 c rest hc ih =>
    rw [hm, hm, writtenBreaks_cons hc]
    omega

theorem length_unescape (cs : List Char) :
    (unescape cs).length + writtenBreaks cs = cs.length := by
  have hcons (c : Char) (cs : List Char) : (c :: cs).length = 1 + cs.length := Nat.add_comm _ _
  have h := measure_unescape (w := fun _ => 1) hcons cs
  omega

theorem octetCount_unescape (cs : List Char) :
    Text.octetCount (unescape cs) + writtenBreaks cs = Text.octetCount cs := by
  have hcons (c : Char) (cs : List Char) :
      Text.octetCount (c :: cs) = (String.utf8EncodeChar c).length + Text.octetCount cs := by
    simp [Text.octetCount, Text.encode]
  have h := measure_unescape hcons cs
  have hwidth : (String.utf8EncodeChar '\\').length = 1 ∧ (String.utf8EncodeChar 'n').length = 1 ∧
      (String.utf8EncodeChar '\n').length = 1 := by decide
  rw [hwidth.1, hwidth.2.1, hwidth.2.2] at h
  omega

theorem count_newline_unescape (cs : List Char) :
    (unescape cs).count '\n' = cs.count '\n' + writtenBreaks cs := by
  have hcons (c : Char) (cs : List Char) :
      (c :: cs).count '\n' = (if c == '\n' then 1 else 0) + cs.count '\n' := by
    rw [List.count_cons, Nat.add_comm]
  have h := measure_unescape hcons cs
  simpa using h

/-- Reading puts no `n` at the front. -/
theorem exists_of_unescape_eq {cs rest : List Char} (h : unescape cs = 'n' :: rest) :
    ∃ more, cs = 'n' :: more := by
  unfold unescape at h
  split at h
  · cases h
  · cases h
  · cases h
    exact ⟨_, rfl⟩

theorem writtenBreaks_unescape (cs : List Char) : writtenBreaks (unescape cs) = 0 := by
  fun_induction unescape cs with
  | case1 => rfl
  | case2 rest ih =>
    rw [writtenBreaks_cons fun _ h => absurd h (by decide)]
    exact ih
  | case3 c rest hc ih =>
    -- the backslash kept would have to be followed by an `n` that was there before
    rw [writtenBreaks_cons fun after hslash hn => ?_]
    · exact ih
    · obtain ⟨more, hmore⟩ := exists_of_unescape_eq hn
      exact hc more hslash hmore

theorem unescape_of_writtenBreaks_eq_zero {cs : List Char} (h : writtenBreaks cs = 0) :
    unescape cs = cs := by
  fun_induction unescape cs with
  | case1 => rfl
  | case2 rest =>
    rw [writtenBreaks_pair] at h
    exact absurd h (Nat.succ_ne_zero _)
  | case3 c rest hc ih =>
    rw [writtenBreaks_cons hc] at h
    rw [ih h]

theorem writeBreaks_unescape {cs : List Char} (h : '\n' ∉ cs) :
    writeBreaks (unescape cs) = cs := by
  fun_induction unescape cs with
  | case1 => rfl
  | case2 rest ih =>
    rw [List.mem_cons, List.mem_cons, not_or, not_or] at h
    show '\\' :: 'n' :: writeBreaks (unescape rest) = _
    rw [ih h.2.2]
  | case3 c rest hc ih =>
    rw [List.mem_cons, not_or] at h
    have hcons : writeBreaks (c :: unescape rest) = c :: writeBreaks (unescape rest) := by
      simp [writeBreaks, Ne.symm h.1]
    rw [hcons, ih h.2]

/-! ## The text shown -/

namespace Diagnostic

theorem toList_displayText (d : Diagnostic) : d.displayText.toList = unescape d.text.toList :=
  String.toList_ofList

/-- In the text shown no line break stays written, so showing it again changes nothing. It has a
line feed more and is a character shorter, and an octet, for each line break that was written. Of a
text without line feeds nothing is lost: it is what comes of writing the line breaks again, and
another text without line feeds is shown differently. -/
theorem displayText_lossless (d : Diagnostic) :
    (∀ before after, d.displayText.toList ≠ before ++ '\\' :: 'n' :: after) ∧
    { d with text := d.displayText }.displayText = d.displayText ∧
    d.displayText.toList.count '\n' =
      d.text.toList.count '\n' + writtenBreaks d.text.toList ∧
    d.displayText.length + writtenBreaks d.text.toList = d.text.length ∧
    Text.octetCount d.displayText.toList + writtenBreaks d.text.toList =
      Text.octetCount d.text.toList ∧
    ('\n' ∉ d.text.toList →
      String.ofList (writeBreaks d.displayText.toList) = d.text ∧
      ∀ e : Diagnostic, '\n' ∉ e.text.toList → e.displayText = d.displayText →
        e.text = d.text) := by
  have hnone := writtenBreaks_unescape d.text.toList
  -- what is written again does not depend on anything but the text shown
  have hback {e : Diagnostic} (h : '\n' ∉ e.text.toList) :
      String.ofList (writeBreaks e.displayText.toList) = e.text := by
    rw [toList_displayText, writeBreaks_unescape h, String.ofList_toList]
  refine ⟨?_, ?_, ?_, ?_, ?_, fun h => ⟨hback h, fun e he heq => ?_⟩⟩
  · rw [toList_displayText]
    exact ne_of_writtenBreaks_eq_zero hnone
  · show String.ofList (unescape d.displayText.toList) = String.ofList (unescape d.text.toList)
    rw [toList_displayText, unescape_of_writtenBreaks_eq_zero hnone]
  · rw [toList_displayText]
    exact count_newline_unescape d.text.toList
  · rw [← String.length_toList, toList_displayText, ← String.length_toList]
    exact length_unescape d.text.toList
  · rw [toList_displayText]
    exact octetCount_unescape d.text.toList
  · rw [← hback he, heq, hback h]

end Diagnostic

/-- A backslash in front of a pair stays, with the line feed behind it. -/
example : unescape "\\\\nn\\n\\n".toList = "\\\nn\n\n".toList := by decide

end CompileSession
