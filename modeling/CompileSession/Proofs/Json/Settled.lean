import CompileSession.Json.Value
import Mathlib.Data.List.Induction
import Mathlib.Data.List.Nodup
import Mathlib.Data.String.Basic

/-!
# What a text stands for

A text may write the members of an object in any order and repeat a name. The value that it stands
for has them in ascending order of their names, each name once, and the last of a name counts.

Results:
1. `eq_sorted`: members are settled by sorting them.
2. `exists_settles`: everything that can be written settles to a value.
3. `Settles.depth_le`: where no name is repeated, nothing is lost.
-/

namespace CompileSession.Json

/-- The members are in ascending order of their names, each name once. -/
def Ascending (ms : Members) : Prop := ms.Pairwise fun m n => m.1 < n.1

mutual

/-- The value `v` is what is written as the first value. -/
inductive Settles : Json → Json → Prop where
  | null : Settles .null .null
  | boolean {b : Bool} : Settles (.boolean b) (.boolean b)
  | number {n : Number} : Settles (.number n) (.number n)
  | text {s : String} : Settles (.text s) (.text s)
  | array {items vs : List Json} : SettleItems items vs → Settles (.array items) (.array vs)
  | object {ms vs settled : Members} : SettleMembers ms vs → Ascending settled →
      (∀ name, get? name settled = get? name vs.reverse) → Settles (.object ms) (.object settled)

inductive SettleItems : List Json → List Json → Prop where
  | nil : SettleItems [] []
  | cons {item v : Json} {items vs : List Json} : Settles item v → SettleItems items vs →
      SettleItems (item :: items) (v :: vs)

inductive SettleMembers : Members → Members → Prop where
  | nil : SettleMembers [] []
  | cons {name : String} {item v : Json} {ms vs : Members} : Settles item v → SettleMembers ms vs →
      SettleMembers ((name, item) :: ms) ((name, v) :: vs)

end

/-! ## Sorting -/

theorem mem_of_get? {name : String} {v : Json} {ms : Members} (h : get? name ms = some v) :
    (name, v) ∈ ms := by
  obtain ⟨before, after, rfl, -⟩ := List.lookup_eq_some_iff.1 h
  exact List.mem_append_right _ List.mem_cons_self

theorem get?_eq_none_iff {name : String} {ms : Members} :
    get? name ms = none ↔ ∀ m ∈ ms, m.1 ≠ name := by
  rw [get?, List.lookup_eq_none_iff]
  refine forall₂_congr fun m _ => ?_
  rw [bne_iff_ne]
  exact ne_comm

theorem get?_cons (name : String) (m : String × Json) (ms : Members) :
    get? name (m :: ms) = if name = m.1 then some m.2 else get? name ms := by
  obtain ⟨key, v⟩ := m
  by_cases h : name = key
  · subst h
    simp [get?]
  · have hkey : (name == key) = false := beq_eq_false_iff_ne.2 h
    simp [get?, List.lookup_cons, h, hkey]

theorem get?_of_mem {ms : Members} (hnodup : (ms.map Prod.fst).Nodup) {m : String × Json}
    (hm : m ∈ ms) : get? m.1 ms = some m.2 := by
  induction ms with
  | nil => cases hm
  | cons first ms ih =>
    obtain ⟨hnew, hnodup⟩ := List.nodup_cons.1 hnodup
    rw [get?_cons]
    rcases List.mem_cons.1 hm with rfl | hm
    · exact if_pos rfl
    · have hne : m.1 ≠ first.1 := by
        intro heq
        rw [← heq] at hnew
        exact hnew (List.mem_map_of_mem hm)
      rw [if_neg hne]
      exact ih hnodup hm

theorem Ascending.nodup {ms : Members} (h : Ascending ms) : (ms.map Prod.fst).Nodup := by
  rw [List.Nodup, List.pairwise_map]
  exact h.imp fun hlt => hlt.ne

theorem mem_put {name : String} {v : Json} {ms : Members} {m : String × Json}
    (h : m ∈ put name v ms) : m = (name, v) ∨ m ∈ ms := by
  induction ms with
  | nil => exact .inl (List.mem_singleton.1 h)
  | cons first ms ih =>
    unfold put at h
    split at h
    · exact List.mem_cons.1 h
    · split at h
      · rcases List.mem_cons.1 h with h | h
        · exact .inl h
        · exact .inr (List.mem_cons_of_mem _ h)
      · rcases List.mem_cons.1 h with rfl | h
        · exact .inr List.mem_cons_self
        · exact (ih h).imp_right (List.mem_cons_of_mem _)

theorem Ascending.put {ms : Members} (h : Ascending ms) (name : String) (v : Json) :
    Ascending (put name v ms) := by
  induction ms with
  | nil => exact List.pairwise_singleton _ _
  | cons first ms ih =>
    obtain ⟨hfirst, hms⟩ := List.pairwise_cons.1 h
    unfold Json.put
    split
    · rename_i hlt
      refine List.pairwise_cons.2 ⟨fun m hm => ?_, h⟩
      rcases List.mem_cons.1 hm with rfl | hm
      · exact hlt
      · exact hlt.trans (hfirst m hm)
    · rename_i hnot
      split
      · rename_i heq
        exact List.pairwise_cons.2 ⟨fun m hm => heq ▸ hfirst m hm, hms⟩
      · rename_i hne
        refine List.pairwise_cons.2 ⟨fun m hm => ?_, ih hms⟩
        rcases mem_put hm with rfl | hm
        · exact lt_of_le_of_ne (not_lt.1 hnot) (Ne.symm hne)
        · exact hfirst m hm

theorem sorted_snoc (ms : Members) (m : String × Json) :
    sorted (ms ++ [m]) = put m.1 m.2 (sorted ms) := by
  simp [sorted]

theorem ascending_sorted (ms : Members) : Ascending (sorted ms) := by
  induction ms using List.reverseRecOn with
  | nil => exact .nil
  | append_singleton ms m ih =>
    rw [sorted_snoc]
    exact ih.put m.1 m.2

theorem get?_sorted (name : String) (ms : Members) :
    get? name (sorted ms) = get? name ms.reverse := by
  induction ms using List.reverseRecOn with
  | nil => rfl
  | append_singleton ms m ih =>
    rw [sorted_snoc, List.reverse_append, List.reverse_singleton, List.singleton_append, get?_cons]
    split
    · rename_i h
      subst h
      exact get?_put_self m.1 m.2 _
    · rename_i h
      rw [get?_put_of_ne h, ih]

theorem Ascending.first_le {m : String × Json} {ms : Members} (h : Ascending (m :: ms))
    {name : String} {v : Json} (hv : get? name (m :: ms) = some v) : m.1 ≤ name := by
  rcases List.mem_cons.1 (mem_of_get? hv) with heq | hmem
  · exact (congrArg Prod.fst heq).ge
  · exact ((List.pairwise_cons.1 h).1 _ hmem).le

/-- Ascending members are known by what they hold under each name. -/
theorem Ascending.ext {ms ns : Members} (hms : Ascending ms) (hns : Ascending ns)
    (h : ∀ name, get? name ms = get? name ns) : ms = ns := by
  have hself (m : String × Json) (ms : Members) : get? m.1 (m :: ms) = some m.2 := by
    rw [get?_cons, if_pos rfl]
  induction ms generalizing ns with
  | nil =>
    cases ns with
    | nil => rfl
    | cons n ns => cases (h n.1).trans (hself n ns)
  | cons m ms ih =>
    cases ns with
    | nil => cases (hself m ms).symm.trans (h m.1)
    | cons n ns =>
      have hname : m.1 = n.1 := le_antisymm (hms.first_le ((h n.1).trans (hself n ns)))
        (hns.first_le ((h m.1).symm.trans (hself m ms)))
      have hvalue : m.2 = n.2 := by
        have hsome := (h m.1).symm.trans (hself m ms)
        rw [get?_cons, if_pos hname] at hsome
        exact (Option.some.inj hsome).symm
      have hhead : m = n := Prod.ext hname hvalue
      subst hhead
      obtain ⟨hfirst, hms⟩ := List.pairwise_cons.1 hms
      obtain ⟨hfirst', hns⟩ := List.pairwise_cons.1 hns
      refine congrArg (m :: ·) (ih hms hns fun name => ?_)
      by_cases hm : name = m.1
      · subst hm
        rw [get?_eq_none_iff.2 fun other hother => (hfirst other hother).ne',
          get?_eq_none_iff.2 fun other hother => (hfirst' other hother).ne']
      · have hname := h name
        rwa [get?_cons, if_neg hm, get?_cons, if_neg hm] at hname

theorem eq_sorted {settled vs : Members} (hascending : Ascending settled)
    (hlast : ∀ name, get? name settled = get? name vs.reverse) : settled = sorted vs :=
  hascending.ext (ascending_sorted vs) fun name => (hlast name).trans (get?_sorted name vs).symm

mutual

/-- Whatever is written settles to a value. -/
theorem exists_settles : (raw : Json) → ∃ v, Settles raw v
  | .null => ⟨_, .null⟩
  | .boolean _ => ⟨_, .boolean⟩
  | .number _ => ⟨_, .number⟩
  | .text _ => ⟨_, .text⟩
  | .array items => by
    obtain ⟨vs, hvs⟩ := exists_settleItems items
    exact ⟨_, .array hvs⟩
  | .object ms => by
    obtain ⟨vs, hvs⟩ := exists_settleMembers ms
    exact ⟨_, .object hvs (ascending_sorted vs) fun name => get?_sorted name vs⟩

theorem exists_settleItems : (items : List Json) → ∃ vs, SettleItems items vs
  | [] => ⟨[], .nil⟩
  | item :: items => by
    obtain ⟨v, hv⟩ := exists_settles item
    obtain ⟨vs, hvs⟩ := exists_settleItems items
    exact ⟨v :: vs, .cons hv hvs⟩

theorem exists_settleMembers : (ms : List (String × Json)) → ∃ vs, SettleMembers ms vs
  | [] => ⟨[], .nil⟩
  | (name, item) :: ms => by
    obtain ⟨v, hv⟩ := exists_settles item
    obtain ⟨vs, hvs⟩ := exists_settleMembers ms
    exact ⟨(name, v) :: vs, .cons hv hvs⟩

end

/-! ## Nesting -/

mutual

/-- How many arrays and objects are open at once. -/
def depth : Json → Nat
  | .array items => depthItems items + 1
  | .object ms => depthMembers ms + 1
  | _ => 0

def depthItems : List Json → Nat
  | [] => 0
  | v :: vs => max (depth v) (depthItems vs)

def depthMembers : List (String × Json) → Nat
  | [] => 0
  | (_, v) :: ms => max (depth v) (depthMembers ms)

end

mutual

/-- No object repeats a name. -/
def Distinct : Json → Prop
  | .array items => DistinctItems items
  | .object ms => (ms.map Prod.fst).Nodup ∧ DistinctMembers ms
  | _ => True

def DistinctItems : List Json → Prop
  | [] => True
  | v :: vs => Distinct v ∧ DistinctItems vs

def DistinctMembers : List (String × Json) → Prop
  | [] => True
  | (_, v) :: ms => Distinct v ∧ DistinctMembers ms

end

theorem depthMembers_le_iff {ms : Members} {n : Nat} :
    depthMembers ms ≤ n ↔ ∀ m ∈ ms, m.2.depth ≤ n := by
  induction ms with
  | nil => simp [depthMembers]
  | cons m ms ih =>
    obtain ⟨name, v⟩ := m
    rw [depthMembers, Nat.max_le, List.forall_mem_cons, ih]

theorem SettleMembers.names {ms vs : Members} (h : SettleMembers ms vs) :
    vs.map Prod.fst = ms.map Prod.fst := by
  induction ms generalizing vs with
  | nil =>
    cases h
    rfl
  | cons m ms ih =>
    cases h with
    | cons _ h => exact congrArg (_ :: ·) (ih h)

/-- Members with different names are all kept. -/
theorem depthMembers_le_settled {vs settled : Members} (hnodup : (vs.map Prod.fst).Nodup)
    (hlast : ∀ name, get? name settled = get? name vs.reverse) :
    depthMembers vs ≤ depthMembers settled := by
  refine depthMembers_le_iff.2 fun m hm => ?_
  have hnodup' : (vs.reverse.map Prod.fst).Nodup := by
    rw [List.map_reverse, List.nodup_reverse]
    exact hnodup
  have hget := (hlast m.1).trans (get?_of_mem hnodup' (List.mem_reverse.2 hm))
  exact depthMembers_le_iff.1 (Nat.le_refl _) _ (mem_of_get? hget)

mutual

/-- What repeats no name is nested as deep as the value that it settles to. -/
theorem Settles.depth_le {raw v : Json} : Settles raw v → raw.Distinct → raw.depth ≤ v.depth
  | .null, _ | .boolean, _ | .number, _ | .text, _ => Nat.le_refl _
  | .array h, hd => Nat.succ_le_succ (SettleItems.depth_le h hd)
  | .object h _ hlast, hd => by
    have hnodup := hd.1
    rw [← h.names] at hnodup
    exact Nat.succ_le_succ
      (Nat.le_trans (SettleMembers.depth_le h hd.2) (depthMembers_le_settled hnodup hlast))

theorem SettleItems.depth_le {items vs : List Json} :
    SettleItems items vs → DistinctItems items → depthItems items ≤ depthItems vs
  | .nil, _ => Nat.le_refl _
  | .cons h hs, hd => max_le_max (Settles.depth_le h hd.1) (SettleItems.depth_le hs hd.2)

theorem SettleMembers.depth_le {ms vs : List (String × Json)} :
    SettleMembers ms vs → DistinctMembers ms → depthMembers ms ≤ depthMembers vs
  | .nil, _ => Nat.le_refl _
  | .cons h hs, hd => max_le_max (Settles.depth_le h hd.1) (SettleMembers.depth_le hs hd.2)

end

end CompileSession.Json
