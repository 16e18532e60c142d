import CompileSession.Text.Lines
import Mathlib.Data.List.Basic

/-!
# What the lines of a text are

`Lined` says which lines a text has: written one after the other, each with what ends it, they are
the text. Every text has one list of lines, the one that `lines` gives.

Results:
1. `lines_eq_iff`: `lines` gives just the lines of a text.
2. `newline_not_mem_lines`: none of them has a line feed.
-/

namespace CompileSession.Text

/-- The lines that a text has. A line ends with a line feed, which may follow a carriage return.
What comes after the last line feed is a line only if there is something, and nothing ends it
then. -/
inductive Lined : List Char → List (List Char) → Prop where
  | none : Lined [] []
  | last {line : List Char} : line ≠ [] → '\n' ∉ line → Lined line [line]
  | feed {line rest : List Char} {ls : List (List Char)} :
      '\n' ∉ line → line.getLast? ≠ some '\r' → Lined rest ls →
      Lined (line ++ '\n' :: rest) (line :: ls)
  | returnFeed {line rest : List Char} {ls : List (List Char)} :
      '\n' ∉ line → Lined rest ls → Lined (line ++ '\r' :: '\n' :: rest) (line :: ls)

variable {seen line text rest : List Char} {ls : List (List Char)}

/-! ## The lines are found -/

theorem linesFrom_append (h : '\n' ∉ line) :
    linesFrom seen (line ++ rest) = linesFrom (line.reverse ++ seen) rest := by
  induction line generalizing seen with
  | nil => rfl
  | cons c line ih =>
    obtain ⟨hc, hline⟩ := not_or.1 (mt List.mem_cons.2 h)
    rw [List.cons_append, linesFrom, if_neg (Ne.symm hc), ih hline, List.reverse_cons,
      List.append_assoc, List.singleton_append]

theorem linesFrom_feed (h : '\n' ∉ line) :
    linesFrom [] (line ++ '\n' :: rest) = dropReturn line :: linesFrom [] rest := by
  rw [linesFrom_append h, List.append_nil, linesFrom, if_pos rfl, List.reverse_reverse]

theorem dropReturn_append_return (line : List Char) : dropReturn (line ++ ['\r']) = line := by
  unfold dropReturn
  rw [if_pos List.getLast?_concat, List.dropLast_concat]

theorem Lined.linesFrom_eq (h : Lined text ls) : linesFrom [] text = ls := by
  induction h with
  | none => rfl
  | @last line hfull hline =>
    rw [← List.append_nil line, linesFrom_append hline, List.append_nil, linesFrom,
      List.isEmpty_reverse, if_neg (mt List.isEmpty_iff.1 hfull), List.reverse_reverse,
      List.append_nil]
  | feed hline hend _ ih => rw [linesFrom_feed hline, dropReturn, if_neg hend, ih]
  | @returnFeed line rest _ hline _ ih =>
    have hreturn : '\n' ∉ line ++ ['\r'] := by
      rw [List.mem_append, not_or]
      exact ⟨hline, by decide⟩
    rw [List.append_cons, linesFrom_feed hreturn, dropReturn_append_return, ih]

/-! ## Every text has lines -/

/-- A line feed ends a line whether a carriage return stands before it or not. -/
theorem lined_dropReturn (hline : '\n' ∉ line) (hrest : Lined rest ls) :
    Lined (line ++ '\n' :: rest) (dropReturn line :: ls) := by
  unfold dropReturn
  split
  · next hend =>
    obtain ⟨before, rfl⟩ := List.getLast?_eq_some_iff.1 hend
    rw [List.dropLast_concat, List.append_assoc]
    exact .returnFeed (fun h => hline (List.mem_append_left _ h)) hrest
  · next hend => exact .feed hline hend hrest

/-- What was seen of the first line comes before the text. -/
theorem lined_linesFrom (hseen : '\n' ∉ seen) (text : List Char) :
    Lined (seen.reverse ++ text) (linesFrom seen text) := by
  have hline : '\n' ∉ seen.reverse := mt List.mem_reverse.1 hseen
  induction text generalizing seen with
  | nil =>
    unfold linesFrom
    rw [List.append_nil]
    split
    · next hnone =>
      rw [List.isEmpty_iff.1 hnone]
      exact .none
    · next hsome => exact .last (mt List.reverse_eq_nil_iff.1 (mt List.isEmpty_iff.2 hsome)) hline
  | cons c text ih =>
    unfold linesFrom
    split
    · next hc =>
      subst hc
      exact lined_dropReturn hline (ih List.not_mem_nil List.not_mem_nil)
    · next hc =>
      have hcons : '\n' ∉ c :: seen := by
        rw [List.mem_cons, not_or]
        exact ⟨Ne.symm hc, hseen⟩
      have hmore := ih hcons (mt List.mem_reverse.1 hcons)
      rwa [List.reverse_cons, List.append_assoc, List.singleton_append] at hmore

/-! ## The lines of a text -/

/-- `lines` gives just the lines that a text has. -/
theorem lines_eq_iff {text : String} {ls : List String} :
    lines text = ls ↔ Lined text.toList (ls.map String.toList) := by
  constructor
  · rintro rfl
    have hlines : (lines text).map String.toList = linesFrom [] text.toList := by
      unfold lines
      rw [List.map_map]
      exact List.map_id'' (fun _ => String.toList_ofList) _
    rw [hlines]
    exact lined_linesFrom List.not_mem_nil text.toList
  · intro h
    unfold lines
    rw [h.linesFrom_eq, List.map_map]
    exact List.map_id'' (fun _ => String.ofList_toList) _

/-- A line feed takes one carriage return with it, and the last line keeps its own. -/
example : lines "a\r\r\n\nb\r" = ["a\r", "", "b\r"] := by decide

theorem Lined.newline_not_mem (h : Lined text ls) : ∀ line ∈ ls, '\n' ∉ line := by
  induction h with
  | none => exact nofun
  | last _ hline => exact List.forall_mem_singleton.2 hline
  | feed hline _ _ ih => exact List.forall_mem_cons.2 ⟨hline, ih⟩
  | returnFeed hline _ ih => exact List.forall_mem_cons.2 ⟨hline, ih⟩

theorem newline_not_mem_lines {text line : String} (h : line ∈ lines text) :
    '\n' ∉ line.toList :=
  (lines_eq_iff.1 rfl).newline_not_mem _ (List.mem_map_of_mem h)

end CompileSession.Text
