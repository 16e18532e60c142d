import CompileSession.Proofs.Markers
import Mathlib.Data.List.Nodup
import Mathlib.Logic.Function.Basic

/-!
# A pane shared by overlays and an owner

Any number of overlays may draw on one pane, and its owner adds and removes markers as well. A
marker is only known by its number, so what keeps the parties apart is that a number is given once:
an overlay that removes what it keeps can hit nobody else's marker, not even if the owner removed
some of its markers before.

Each thing done to the pane is a stroke. `given` says which numbers a stroke hands out and to whom,
`dropped` which it asks to be removed, and `taken` which markers the owner really takes off.

Results:
1. `Board.take_markers`: what a stroke does to the markers of the pane.
2. `Board.Tidy.take`: the invariant of one stroke, and `Board.tidy_after` that of all.
3. `Board.parties_keep_apart`: whose markers are on the pane after any strokes, and what the next
   drawing or clearing does to them.
-/

namespace CompileSession

/-- Who adds markers to a pane. -/
inductive Party (ι : Type) where
  | owner
  | overlay (i : ι)
deriving DecidableEq

/-- One thing done to a shared pane. -/
inductive Stroke (ι : Type) where
  | host (change : PaneChange)
  | draw (i : ι) (log : Log) (ds : List Diagnostic)
  | clear (i : ι)

/-- The overlay whose stroke it is. -/
def Stroke.overlay? {ι : Type} : Stroke ι → Option ι
  | .host _ => none
  | .draw i _ _ => some i
  | .clear i => some i

/-- A pane and the overlays that draw on it. -/
structure Board (ι : Type) where
  pane : Pane
  overlays : ι → Overlay

theorem Overlay.map_id_numberFrom (next : MarkerId) (us : List Underline) :
    (numberFrom next us).map (·.id) = List.range' next us.length := by
  induction us generalizing next with
  | nil => rfl
  | cons u us ih =>
    rw [numberFrom, List.map_cons, ih]
    rfl

namespace Board

variable {ι : Type}

/-- A pane with nothing but a text, and overlays that drew nothing yet. -/
def start (text : String) : Board ι := ⟨.ofText text, fun _ => .empty⟩

/-- The numbers of the markers on the pane. -/
def live (b : Board ι) : List MarkerId := b.pane.markers.map (·.id)

/-- The numbers that the pane returns during a stroke, and who gets them. -/
def given (b : Board ι) : Stroke ι → List (Party ι × MarkerId)
  | .host (.addMarker _ _ _) => [(.owner, b.pane.nextMarker)]
  | .host _ => []
  | .draw i log ds =>
    ((b.overlays i).draw b.pane log ds).overlay.tracked.map fun id => (.overlay i, id)
  | .clear _ => []

/-- The numbers that a stroke asks to be removed. -/
def dropped (b : Board ι) : Stroke ι → List MarkerId
  | .host (.removeMarker id) => [id]
  | .host _ => []
  | .draw i _ _ => (b.overlays i).tracked
  | .clear i => (b.overlays i).tracked

/-- The numbers of the markers that the owner takes off the pane by a stroke. -/
def taken (b : Board ι) : Stroke ι → List MarkerId
  | .host (.removeMarker id) => if id ∈ b.live then [id] else []
  | _ => []

theorem mem_dropped_iff {b : Board ι} {s : Stroke ι} {id : MarkerId} :
    id ∈ b.dropped s ↔ s = .host (.removeMarker id) ∨
      ∃ i, s.overlay? = some i ∧ id ∈ (b.overlays i).tracked := by
  cases s with
  | host change =>
    cases change with
    | removeMarker other =>
      simp only [dropped, List.mem_singleton, Stroke.overlay?, Stroke.host.injEq,
        PaneChange.removeMarker.injEq, reduceCtorEq, false_and, exists_false, or_false]
      exact eq_comm
    | _ => simp [dropped, Stroke.overlay?]
  | draw | clear => simp [dropped, Stroke.overlay?]

theorem mem_taken_iff {b : Board ι} {s : Stroke ι} {id : MarkerId} :
    id ∈ b.taken s ↔ s = .host (.removeMarker id) ∧ id ∈ b.live := by
  cases s with
  | host change =>
    cases change with
    | removeMarker other =>
      simp only [taken, Stroke.host.injEq, PaneChange.removeMarker.injEq]
      split
      · rename_i hlive
        rw [List.mem_singleton]
        constructor
        · rintro rfl
          exact ⟨rfl, hlive⟩
        · exact fun h => h.1.symm
      · rename_i hdead
        constructor
        · exact fun h => absurd h List.not_mem_nil
        · rintro ⟨rfl, hlive⟩
          exact absurd hlive hdead
    | _ => simp [taken]
  | draw | clear => simp [taken]

/-- Only the overlay whose stroke it is, or else the owner, is given numbers. -/
theorem overlay?_of_mem_given {b : Board ι} {s : Stroke ι} {i : ι} {id : MarkerId}
    (h : (Party.overlay i, id) ∈ b.given s) : s.overlay? = some i := by
  cases s with
  | host change =>
    cases change with
    | addMarker range kind severity =>
      rw [given, List.mem_singleton] at h
      cases h
    | _ => cases h
  | draw j log ds =>
    obtain ⟨id', -, heq⟩ := List.mem_map.1 h
    cases heq
    rfl
  | clear j => cases h

/-! ## One stroke -/

variable [DecidableEq ι]

/-- A board after a stroke. -/
def take (b : Board ι) : Stroke ι → Board ι
  | .host change => { b with pane := change.apply b.pane }
  | .draw i log ds =>
    let drawing := (b.overlays i).draw b.pane log ds
    ⟨drawing.pane, Function.update b.overlays i drawing.overlay⟩
  | .clear i => ⟨(b.overlays i).clear b.pane, Function.update b.overlays i .empty⟩

/-- A stroke removes the markers whose numbers it drops and adds those whose numbers it is given,
behind the others. -/
theorem take_markers (b : Board ι) (s : Stroke ι) :
    ∃ new : List Marker,
      (b.take s).pane.markers =
        (b.pane.markers.filter fun m => !(b.dropped s).contains m.id) ++ new ∧
      new.map (·.id) = (b.given s).map Prod.snd ∧
      new.map (·.id) = List.range' b.pane.nextMarker new.length ∧
      (b.take s).pane.nextMarker = b.pane.nextMarker + new.length := by
  have hkeep : (b.pane.markers.filter fun m => !([] : List MarkerId).contains m.id) =
      b.pane.markers := List.filter_eq_self.2 fun _ _ => rfl
  cases s with
  | host change =>
    cases change with
    | addMarker range kind severity =>
      refine ⟨[⟨b.pane.nextMarker, range, kind, severity⟩], ?_, rfl, rfl, rfl⟩
      show b.pane.markers ++ _ = List.filter _ _ ++ _
      exact congrArg (· ++ _) hkeep.symm
    | removeMarker id =>
      refine ⟨[], ?_, rfl, rfl, rfl⟩
      rw [List.append_nil]
      refine List.filter_congr fun m _ => ?_
      by_cases h : m.id = id <;> simp [dropped, h]
    | setText | setAnnotations | clearAnnotations =>
      refine ⟨[], ?_, rfl, rfl, rfl⟩
      rw [List.append_nil]
      exact hkeep.symm
  | draw i log ds =>
    have hpane : (b.take (.draw i log ds)).pane = _ :=
      Overlay.draw_pane (b.overlays i) b.pane log ds
    have hlength : (Overlay.markersOf b.pane.nextMarker ds).length =
        (ds.flatMap Overlay.underlines).length := by
      rw [← List.length_map, Overlay.markersOf, Overlay.map_id_numberFrom, List.length_range']
    refine ⟨Overlay.markersOf b.pane.nextMarker ds, congrArg Pane.markers hpane, ?_, ?_, ?_⟩
    · rw [given, Overlay.draw_tracked, List.map_map]
      exact (List.map_id _).symm
    · rw [hlength]
      exact Overlay.map_id_numberFrom _ _
    · rw [hlength]
      exact congrArg Pane.nextMarker hpane
  | clear i =>
    have hpane : (b.take (.clear i)).pane = _ := Overlay.clear_eq (b.overlays i) b.pane
    refine ⟨[], ?_, rfl, rfl, ?_⟩
    · rw [List.append_nil]
      exact congrArg Pane.markers hpane
    · rw [hpane]
      rfl

/-- A stroke leaves the numbers that other overlays keep. -/
theorem take_overlays_of_ne {s : Stroke ι} {i : ι} (h : s.overlay? ≠ some i) (b : Board ι) :
    (b.take s).overlays i = b.overlays i := by
  cases s with
  | host change => rfl
  | draw j log ds => exact Function.update_of_ne (fun heq => h (congrArg some heq.symm)) _ _
  | clear j => exact Function.update_of_ne (fun heq => h (congrArg some heq.symm)) _ _

/-- The overlay whose stroke it is keeps what it is given. -/
theorem take_overlays_self {s : Stroke ι} {i : ι} (h : s.overlay? = some i) (b : Board ι) :
    ((b.take s).overlays i).tracked = (b.given s).map Prod.snd ∧
      ∀ id, id ∈ ((b.take s).overlays i).tracked ↔ (Party.overlay i, id) ∈ b.given s := by
  cases s with
  | host change => cases h
  | draw j log ds =>
    cases h
    have htracked : ((b.take (.draw i log ds)).overlays i).tracked =
        ((b.overlays i).draw b.pane log ds).overlay.tracked := by simp [take]
    rw [htracked]
    refine ⟨?_, fun id => by simp [given]⟩
    rw [given, List.map_map]
    exact (List.map_id _).symm
  | clear j =>
    cases h
    simp [take, given, Overlay.empty]

/-- A number is on the pane after a stroke if it was there before and is not dropped, or if the
stroke gives it. -/
theorem mem_live_take {b : Board ι} {s : Stroke ι} {id : MarkerId} :
    id ∈ (b.take s).live ↔
      (id ∈ b.live ∧ id ∉ b.dropped s) ∨ id ∈ (b.given s).map Prod.snd := by
  obtain ⟨new, hmarkers, hgiven, -⟩ := b.take_markers s
  rw [← hgiven]
  unfold live
  rw [hmarkers, List.map_append, List.mem_append]
  refine or_congr ⟨fun hid => ?_, fun ⟨hid, hkept⟩ => ?_⟩ Iff.rfl
  · obtain ⟨m, hm, rfl⟩ := List.mem_map.1 hid
    obtain ⟨hm, hkept⟩ := List.mem_filter.1 hm
    exact ⟨List.mem_map_of_mem hm, by simpa using hkept⟩
  · obtain ⟨m, hm, rfl⟩ := List.mem_map.1 hid
    exact List.mem_map_of_mem (List.mem_filter.2 ⟨hm, by simpa using hkept⟩)

theorem given_ascending (b : Board ι) (s : Stroke ι) :
    ((b.given s).map Prod.snd).Pairwise (· < ·) := by
  obtain ⟨new, -, hgiven, hrange, -⟩ := b.take_markers s
  rw [← hgiven, hrange]
  exact List.pairwise_lt_range'

/-- What a stroke gives was not given before, and will not be given again. -/
theorem given_bounds {b : Board ι} {s : Stroke ι} {id : MarkerId}
    (h : id ∈ (b.given s).map Prod.snd) :
    b.pane.nextMarker ≤ id ∧ id < (b.take s).pane.nextMarker := by
  obtain ⟨new, -, hgiven, hrange, hnext⟩ := b.take_markers s
  rw [← hgiven, hrange, List.mem_range'_1] at h
  rw [hnext]
  exact h

theorem nextMarker_le_take (b : Board ι) (s : Stroke ι) :
    b.pane.nextMarker ≤ (b.take s).pane.nextMarker := by
  obtain ⟨new, -, -, -, hnext⟩ := b.take_markers s
  rw [hnext]
  exact Nat.le_add_right _ _

theorem live_take_ascending {b : Board ι} (h : b.live.Pairwise (· < ·))
    (hlt : ∀ id ∈ b.live, id < b.pane.nextMarker) (s : Stroke ι) :
    (b.take s).live.Pairwise (· < ·) := by
  obtain ⟨new, hmarkers, hgiven, -⟩ := b.take_markers s
  unfold live
  rw [hmarkers, List.map_append, hgiven]
  have hsublist := (List.filter_sublist (l := b.pane.markers)
    (p := fun m => !(b.dropped s).contains m.id)).map Marker.id
  refine List.pairwise_append.2 ⟨h.sublist hsublist, b.given_ascending s, fun old hold id hid => ?_⟩
  exact Nat.lt_of_lt_of_le (hlt old (hsublist.mem hold)) (given_bounds hid).1

/-! ## Numbers in order -/

omit [DecidableEq ι] in
/-- The numbers `out` were given on a board, of which the owner took the markers `off` away. -/
structure Tidy (b : Board ι) (out : List (Party ι × MarkerId)) (off : List MarkerId) : Prop where
  /-- numbers are given upwards, and none twice -/
  ascending : (out.map Prod.snd).Pairwise (· < ·)
  given_lt : ∀ e ∈ out, e.2 < b.pane.nextMarker
  live : b.live.Pairwise (· < ·)
  live_given : ∀ id ∈ b.live, id ∈ out.map Prod.snd
  tracked : ∀ i, ((b.overlays i).tracked).Pairwise (· < ·)
  tracked_given : ∀ i, ∀ id ∈ (b.overlays i).tracked, (.overlay i, id) ∈ out
  live_tracked : ∀ i, ∀ id ∈ b.live, (.overlay i, id) ∈ out → id ∈ (b.overlays i).tracked
  off_gone : ∀ id ∈ off, id < b.pane.nextMarker ∧ id ∉ b.live
  tracked_live : ∀ i, ∀ id ∈ (b.overlays i).tracked, id ∉ off → id ∈ b.live

omit [DecidableEq ι] in
theorem tidy_start (text : String) : (start text : Board ι).Tidy [] [] where
  ascending := .nil
  given_lt _ h := absurd h List.not_mem_nil
  live := .nil
  live_given _ h := absurd h List.not_mem_nil
  tracked _ := .nil
  tracked_given _ _ h := absurd h List.not_mem_nil
  live_tracked _ _ h := absurd h List.not_mem_nil
  off_gone _ h := absurd h List.not_mem_nil
  tracked_live _ _ h := absurd h List.not_mem_nil

namespace Tidy

variable {b : Board ι} {out : List (Party ι × MarkerId)} {off : List MarkerId}

omit [DecidableEq ι] in
theorem live_lt (h : b.Tidy out off) {id : MarkerId} (hid : id ∈ b.live) :
    id < b.pane.nextMarker := by
  obtain ⟨e, he, rfl⟩ := List.mem_map.1 (h.live_given id hid)
  exact h.given_lt e he

omit [DecidableEq ι] in
/-- Each number was given to one party. -/
theorem party_unique (h : b.Tidy out off) {p q : Party ι} {id : MarkerId} (hp : (p, id) ∈ out)
    (hq : (q, id) ∈ out) : p = q := by
  have hnodup : (out.map Prod.snd).Nodup := h.ascending.imp Nat.ne_of_lt
  exact congrArg Prod.fst (List.inj_on_of_nodup_map hnodup hp hq rfl)

omit [DecidableEq ι] in
theorem tracked_unique (h : b.Tidy out off) {i j : ι} {id : MarkerId}
    (hi : id ∈ (b.overlays i).tracked) (hj : id ∈ (b.overlays j).tracked) : i = j :=
  Party.overlay.inj (h.party_unique (h.tracked_given i id hi) (h.tracked_given j id hj))

/-- The numbers stay in order whatever is done to the pane. -/
theorem take (h : b.Tidy out off) (s : Stroke ι) :
    (b.take s).Tidy (out ++ b.given s) (off ++ b.taken s) where
  ascending := by
    rw [List.map_append]
    refine List.pairwise_append.2 ⟨h.ascending, b.given_ascending s, fun old hold id hid => ?_⟩
    obtain ⟨e, he, rfl⟩ := List.mem_map.1 hold
    exact Nat.lt_of_lt_of_le (h.given_lt e he) (given_bounds hid).1
  given_lt e he := by
    rcases List.mem_append.1 he with he | he
    · exact Nat.lt_of_lt_of_le (h.given_lt e he) (b.nextMarker_le_take s)
    · exact (given_bounds (List.mem_map_of_mem he)).2
  live := live_take_ascending h.live (fun _ => h.live_lt) s
  live_given id hid := by
    rw [List.map_append, List.mem_append]
    rcases mem_live_take.1 hid with ⟨hold, -⟩ | hid
    · exact .inl (h.live_given id hold)
    · exact .inr hid
  tracked i := by
    by_cases hs : s.overlay? = some i
    · rw [(take_overlays_self hs b).1]
      exact b.given_ascending s
    · rw [take_overlays_of_ne hs b]
      exact h.tracked i
  tracked_given i id hid := by
    rw [List.mem_append]
    by_cases hs : s.overlay? = some i
    · exact .inr (((take_overlays_self hs b).2 id).1 hid)
    · rw [take_overlays_of_ne hs b] at hid
      exact .inl (h.tracked_given i id hid)
  live_tracked i id hid hout := by
    rcases mem_live_take.1 hid with ⟨hold, hkept⟩ | hid
    · -- the number of a marker that was there is not given again
      have hbefore : (Party.overlay i, id) ∈ out := by
        rcases List.mem_append.1 hout with hout | hout
        · exact hout
        · exact absurd (h.live_lt hold) (Nat.not_lt.2 (given_bounds (List.mem_map_of_mem hout)).1)
      have htracked := h.live_tracked i id hold hbefore
      have hs : s.overlay? ≠ some i := fun hs => hkept (mem_dropped_iff.2 (.inr ⟨i, hs, htracked⟩))
      rw [take_overlays_of_ne hs b]
      exact htracked
    · have hgive : (Party.overlay i, id) ∈ b.given s := by
        rcases List.mem_append.1 hout with hout | hout
        · exact absurd (h.given_lt _ hout) (Nat.not_lt.2 (given_bounds hid).1)
        · exact hout
      exact ((take_overlays_self (overlay?_of_mem_given hgive) b).2 id).2 hgive
  off_gone id hid := by
    -- what is gone does not come back, since only new numbers are given
    have hgone (hlt : id < b.pane.nextMarker) (hold : id ∈ b.live → id ∈ b.dropped s) :
        id < (b.take s).pane.nextMarker ∧ id ∉ (b.take s).live := by
      refine ⟨Nat.lt_of_lt_of_le hlt (b.nextMarker_le_take s), fun hid => ?_⟩
      rcases mem_live_take.1 hid with ⟨hid, hkept⟩ | hid
      · exact hkept (hold hid)
      · exact absurd hlt (Nat.not_lt.2 (given_bounds hid).1)
    rcases List.mem_append.1 hid with hid | hid
    · obtain ⟨hlt, hdead⟩ := h.off_gone id hid
      exact hgone hlt fun hid => absurd hid hdead
    · obtain ⟨hs, hid⟩ := mem_taken_iff.1 hid
      exact hgone (h.live_lt hid) fun _ => mem_dropped_iff.2 (.inl hs)
  tracked_live i id hid hoff := by
    rw [List.mem_append, not_or] at hoff
    rw [mem_live_take]
    by_cases hs : s.overlay? = some i
    · rw [(take_overlays_self hs b).1] at hid
      exact .inr hid
    · rw [take_overlays_of_ne hs b] at hid
      have hold := h.tracked_live i id hid hoff.1
      -- only the owner and the overlay itself drop what the overlay keeps
      refine .inl ⟨hold, fun hdropped => ?_⟩
      rcases mem_dropped_iff.1 hdropped with howner | ⟨j, hj, hother⟩
      · exact hoff.2 (mem_taken_iff.2 ⟨howner, hold⟩)
      · exact hs (h.tracked_unique hid hother ▸ hj)

end Tidy

/-! ## Any strokes -/

/-- A board after some strokes. -/
def after (b : Board ι) (strokes : List (Stroke ι)) : Board ι := strokes.foldl take b

/-- What `f` makes of each stroke, given the board that the stroke finds. -/
def along {β : Type} (f : Board ι → Stroke ι → List β) (b : Board ι) : List (Stroke ι) → List β
  | [] => []
  | s :: strokes => f b s ++ along f (b.take s) strokes

theorem after_snoc (b : Board ι) (past : List (Stroke ι)) (s : Stroke ι) :
    b.after (past ++ [s]) = (b.after past).take s := by
  simp [after]

theorem along_snoc {β : Type} (f : Board ι → Stroke ι → List β) (b : Board ι)
    (past : List (Stroke ι)) (s : Stroke ι) :
    along f b (past ++ [s]) = along f b past ++ f (b.after past) s := by
  induction past generalizing b with
  | nil => simp [along, after]
  | cons first past ih =>
    rw [List.cons_append, along, along, ih, List.append_assoc]
    rfl

theorem tidy_after (text : String) (strokes : List (Stroke ι)) :
    ((start text).after strokes).Tidy (along given (start text) strokes)
      (along taken (start text) strokes) := by
  induction strokes using List.reverseRecOn with
  | nil => exact tidy_start text
  | append_singleton past s ih =>
    rw [after_snoc, along_snoc, along_snoc]
    exact ih.take s

/-- Whose markers are on a shared pane after any strokes. The numbers that the pane returned ascend,
so none was given twice; the markers on the pane have ascending numbers below the next one. The
numbers that the overlays keep are their own: no overlay keeps one twice, one that another overlay
keeps, or one of the owner's. Drawing and clearing remove the markers that the overlay keeps and
leave every other marker as it is; a drawing adds markers under new numbers, which the overlay keeps
from then on, and after clearing it keeps nothing and no marker that it ever added is left. At any
moment the markers of an overlay on the pane are those that it keeps, except what the owner took
off. -/
theorem parties_keep_apart (text : String) (strokes : List (Stroke ι)) :
    let b := (start text).after strokes
    let out := along given (start text) strokes
    let off := along taken (start text) strokes
    (out.map Prod.snd).Pairwise (· < ·) ∧
    b.live.Pairwise (· < ·) ∧ (∀ id ∈ b.live, id < b.pane.nextMarker) ∧
    (∀ i, (b.overlays i).tracked.Nodup ∧
      (∀ j, j ≠ i → (b.overlays i).tracked.Disjoint (b.overlays j).tracked) ∧
      ∀ id ∈ (b.overlays i).tracked, (.owner, id) ∉ out) ∧
    (∀ i id, (id ∈ b.live ∧ (.overlay i, id) ∈ out) ↔ (id ∈ (b.overlays i).tracked ∧ id ∉ off)) ∧
    (∀ i, let c := b.take (.clear i)
      c.pane.markers = b.pane.markers.filter (fun m => m.id ∉ (b.overlays i).tracked) ∧
      (c.overlays i).tracked = [] ∧ (∀ j, j ≠ i → c.overlays j = b.overlays j) ∧
      ∀ id ∈ c.live, (.overlay i, id) ∉ out) ∧
    ∀ i log ds, let c := b.take (.draw i log ds)
      ∃ new, c.pane.markers =
          b.pane.markers.filter (fun m => m.id ∉ (b.overlays i).tracked) ++ new ∧
        new.map (·.id) = (c.overlays i).tracked ∧ (∀ m ∈ new, b.pane.nextMarker ≤ m.id) ∧
        ∀ j, j ≠ i → c.overlays j = b.overlays j := by
  intro b out off
  have h : b.Tidy out off := tidy_after text strokes
  have hkept (i : ι) : (fun m : Marker => !(b.overlays i).tracked.contains m.id) =
      fun m => decide (m.id ∉ (b.overlays i).tracked) := by
    funext m
    simp
  refine ⟨h.ascending, h.live, fun id => h.live_lt, fun i => ⟨?_, ?_, ?_⟩, ?_, ?_, ?_⟩
  · exact (h.tracked i).imp Nat.ne_of_lt
  · exact fun j hj id hi hid => hj (h.tracked_unique hid hi)
  · intro id hid hown
    cases h.party_unique hown (h.tracked_given i id hid)
  · intro i id
    constructor
    · rintro ⟨hlive, hout⟩
      exact ⟨h.live_tracked i id hlive hout, fun hoff => (h.off_gone id hoff).2 hlive⟩
    · rintro ⟨htracked, hoff⟩
      exact ⟨h.tracked_live i id htracked hoff, h.tracked_given i id htracked⟩
  · intro i c
    have hc : c.Tidy out off := by
      have hnext := h.take (.clear i)
      simp only [given, taken, List.append_nil] at hnext
      exact hnext
    have htracked : (c.overlays i).tracked = [] := (take_overlays_self rfl b).1
    refine ⟨?_, htracked, fun j hj => take_overlays_of_ne (fun heq => hj ?_) b, ?_⟩
    · rw [← hkept]
      exact congrArg Pane.markers (Overlay.clear_eq (b.overlays i) b.pane)
    · exact (Option.some.inj heq).symm
    · intro id hlive hout
      have hid := hc.live_tracked i id hlive hout
      rw [htracked] at hid
      exact absurd hid List.not_mem_nil
  · intro i log ds c
    obtain ⟨new, hmarkers, hgiven, hrange, -⟩ := b.take_markers (.draw i log ds)
    refine ⟨new, ?_, ?_, fun m hm => ?_, fun j hj => take_overlays_of_ne (fun heq => hj ?_) b⟩
    · rw [← hkept]
      exact hmarkers
    · exact hgiven.trans (take_overlays_self rfl b).1.symm
    · have hid : m.id ∈ new.map (·.id) := List.mem_map_of_mem hm
      rw [hrange, List.mem_range'_1] at hid
      exact hid.1
    · exact (Option.some.inj heq).symm

end Board

end CompileSession
