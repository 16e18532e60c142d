import CompileSession.Command.Line

/-!
# How orders are spelt

An order to compile is spelt by the words after its command: at most one file, and each of its flags
at most once, in any order. A file whose name could be taken for a flag stands after two dashes.
Every such spelling is read as the order that it spells.

Results:
1. `reads_of_spells`: what is seen after the words of an order.
2. `CommandLine.read_spelled`: the reader gives back the order that was spelt.
-/

namespace CompileSession

namespace CompileOrder

/-- The order to compile the session as it was saved. -/
def plain : CompileOrder := ⟨none, none, false, false⟩

/-- A flag of an order. -/
inductive Flag where
  | verify
  | noVerify
  | counterexamples
  | run
deriving DecidableEq, Repr

namespace Flag

/-- How a flag is spelt. -/
def word : Flag → String
  | .verify => "--verify"
  | .noVerify => "--no-verify"
  | .counterexamples => "--counterexamples"
  | .run => "--run"

/-- The argument that a flag is. -/
def argument : Flag → Argument
  | .verify => .verify
  | .noVerify => .noVerify
  | .counterexamples => .counterexamples
  | .run => .run

/-- Whether an order has a flag. -/
def holds (o : CompileOrder) : Flag → Bool
  | .verify => o.verify == some true
  | .noVerify => o.verify == some false
  | .counterexamples => o.counterexamples
  | .run => o.run

/-- Whether an order has a flag or one that excludes it. -/
def decided (o : CompileOrder) : Flag → Bool
  | .verify => o.verify.isSome
  | .noVerify => o.verify.isSome
  | .counterexamples => o.counterexamples
  | .run => o.run

/-- The order with a flag. -/
def set (o : CompileOrder) : Flag → CompileOrder
  | .verify => { o with verify := some true }
  | .noVerify => { o with verify := some false }
  | .counterexamples => { o with counterexamples := true }
  | .run => { o with run := true }

end Flag

/-- Whether a word is read as the name of a file wherever it stands. -/
def IsName (word : String) : Prop := word ≠ "" ∧ (word = "-" ∨ word.toList.head? ≠ some '-')

/-- The words that spell an order. With `last` nothing can come after them but the name of a file,
and that was there. -/
inductive Spells : CompileOrder → (last : Bool) → List String → Prop
  | plain : Spells plain false []
  | flag {o : CompileOrder} {words : List String} {f : Flag} :
      Spells o false words → f.decided o = false → Spells (f.set o) false (words ++ [f.word])
  | file {o : CompileOrder} {words : List String} {name : String} :
      Spells o false words → o.file = none → IsName name →
      Spells { o with file := some name } false (words ++ [name])
  | afterDashes {o : CompileOrder} {words : List String} {name : String} :
      Spells o false words → o.file = none → name ≠ "" →
      Spells { o with file := some name } true (words ++ ["--", name])

end CompileOrder

/-- The words that spell a command. -/
inductive Order.Spelled : Order → List String → Prop
  | session : Spelled .session ["session"]
  | compile {o : CompileOrder} {last : Bool} {words : List String} :
      o.Spells last words → Spelled (.compile o) ("compile" :: words)

namespace WordLemmas

open CompileOrder

/-- The arguments given are those of an order. -/
structure Given (given : List (Argument × String)) (o : CompileOrder) : Prop where
  server : given.lookup .server = none
  db : given.lookup .db = none
  file : given.lookup .file = o.file
  has_file : given.any (·.1 == .file) = o.file.isSome
  flags : ∀ f : Flag, given.any (·.1 == f.argument) = f.holds o
  /-- of the flags that exclude each other one is there at most -/
  choice :
    (given.filter fun g => g.1 == .verify || g.1 == .noVerify).length = o.verify.toList.length

theorem given_nil : Given [] plain := by
  refine ⟨rfl, rfl, rfl, rfl, fun f => ?_, rfl⟩
  cases f <;> rfl

theorem Flag.set_file (o : CompileOrder) (f : Flag) : (f.set o).file = o.file := by
  cases f <;> rfl

theorem Given.withFlag {given : List (Argument × String)} {o : CompileOrder} (h : Given given o)
    {f : Flag} (hf : f.decided o = false) : Given (given ++ [(f.argument, "")]) (f.set o) := by
  obtain ⟨hserver, hdb, hfile, hhas, hflags, hchoice⟩ := h
  refine ⟨?_, ?_, ?_, ?_, fun g => ?_, ?_⟩
  · rw [List.lookup_append, hserver]
    cases f <;> rfl
  · rw [List.lookup_append, hdb]
    cases f <;> rfl
  · have hother : [(f.argument, "")].lookup Argument.file = none := by cases f <;> rfl
    rw [List.lookup_append, hfile, hother, Option.or_none, Flag.set_file]
  · have hother : [(f.argument, "")].any (·.1 == Argument.file) = false := by cases f <;> rfl
    rw [List.any_append, hhas, hother, Bool.or_false, Flag.set_file]
  · rw [List.any_append, hflags]
    cases f <;> cases g <;> simp_all [Flag.decided, Flag.set, Flag.holds, Flag.argument]
  · rw [List.filter_append, List.length_append, hchoice]
    cases f <;> simp_all [Flag.decided, Flag.set, Flag.argument]

theorem Given.withFile {given : List (Argument × String)} {o : CompileOrder} (h : Given given o)
    (hnone : o.file = none) (name : String) :
    Given (given ++ [(.file, name)]) { o with file := some name } := by
  obtain ⟨hserver, hdb, hfile, hhas, hflags, hchoice⟩ := h
  refine ⟨?_, ?_, ?_, ?_, fun g => ?_, ?_⟩
  · rw [List.lookup_append, hserver]
    rfl
  · rw [List.lookup_append, hdb]
    rfl
  · rw [List.lookup_append, hfile, hnone]
    rfl
  · rw [List.any_append, hhas, hnone]
    rfl
  · rw [List.any_append, hflags]
    cases g <;> exact Bool.or_false _
  · rw [List.filter_append, List.length_append, hchoice]
    rfl

/-- What was given makes the order. -/
theorem Given.compileOrder {s : Seen} {o : CompileOrder} (h : Given s.given o) :
    CommandLine.compileOrder s = o := by
  have hverify : s.has .verify = Flag.verify.holds o := h.flags .verify
  have hnoVerify : s.has .noVerify = Flag.noVerify.holds o := h.flags .noVerify
  have hcounterexamples : s.has .counterexamples = o.counterexamples := h.flags .counterexamples
  have hrun : s.has .run = o.run := h.flags .run
  have hfile : s.value? .file = o.file := h.file
  obtain ⟨file, verify, counterexamples, run⟩ := o
  unfold CommandLine.compileOrder
  rw [hverify, hnoVerify, hcounterexamples, hrun, hfile]
  cases verify with
  | none => rfl
  | some verify => cases verify <;> rfl

/-! ## Reading words -/

/-- What is seen after the words of an order: the arguments given are those of the order once the
one that waits is looked at, and that has its value already. -/
structure Sees (s : Seen) (o : CompileOrder) (last : Bool) : Prop where
  settled : ∃ t, s.settle = .ok t ∧ t.waiting = none ∧ t.trailing = s.trailing ∧ Given t.given o
  complete : s.awaits = false
  trailing : s.trailing = last
  /-- an argument is given or waits only if the order has it -/
  mentions : s.mentions .file = o.file.isSome

/-- Where no command may stand, every word is read as an argument. -/
theorem read_cons {l : Level} (hl : l.commands = false) (word : String) (words : List String)
    (s : Seen) : l.read s (word :: words) =
      match l.step word s with
      | .error e => .error e
      | .ok s => l.read s words := by
  have hnone : l.command? word s = none := by
    unfold Level.command?
    rw [hl]
    rfl
  cases hs : l.step word s with
  | error e => simp only [Level.read, hnone, hs]
  | ok next => simp only [Level.read, hnone, hs]

theorem read_append {l : Level} (hl : l.commands = false) {words more : List String} {s t : Seen}
    (h : l.read s words = .ok (t, none)) : l.read s (words ++ more) = l.read t more := by
  induction words generalizing s with
  | nil =>
    cases h
    rfl
  | cons word words ih =>
    rw [List.cons_append, read_cons hl]
    rw [read_cons hl] at h
    cases hs : l.step word s with
    | error e =>
      rw [hs] at h
      cases h
    | ok next =>
      rw [hs] at h
      exact ih h

theorem read_single {l : Level} (hl : l.commands = false) {word : String} {s t : Seen}
    (h : l.step word s = .ok t) : l.read s [word] = .ok (t, none) := by
  rw [read_cons hl, h]
  rfl

/-- Outside of the words after the dashes, the word of a flag is that flag. -/
theorem step_flag (f : Flag) {s : Seen} (hs : s.trailing = false) :
    Level.compile.step f.word s = s.take f.argument none := by
  unfold Level.step
  rw [hs]
  cases f <;> rfl

/-- A word that is a name is read as such if nothing waits for a value. -/
theorem step_name {name : String} (hname : IsName name) {s : Seen} (hs : s.trailing = false)
    (hcomplete : s.awaits = false) : Level.compile.step name s = Level.compile.word name s := by
  -- a single dash is a name, and more characters after a dash are none
  have hword : ∀ first rest, name.toList ≠ '-' :: first :: rest := by
    intro first rest h
    rcases hname.2 with rfl | hhead
    · cases h
    · rw [h] at hhead
      exact hhead rfl
  unfold Level.step
  rw [hs, if_neg Bool.false_ne_true]
  split
  · rename_i h
    exact absurd h (hword '-' [])
  · rename_i rest _ h
    exact absurd h (hword '-' rest)
  · rename_i first rest _ _ h
    exact absurd h (hword first rest)
  · split
    · rename_i hwaiting
      unfold Seen.awaits at hcomplete
      rw [hwaiting] at hcomplete
      cases hcomplete
    · rfl

/-- After the dashes every word is read as a name. -/
theorem step_trailing {s : Seen} (hs : s.trailing = true) (name : String) :
    Level.compile.step name s = Level.compile.word name s := by
  unfold Level.step
  rw [if_pos hs]

/-- What waits is looked at without regard to the dashes. -/
theorem settle_trailing {s t : Seen} (h : s.settle = .ok t) :
    { s with trailing := true }.settle = .ok { t with trailing := true } := by
  unfold Seen.settle at h ⊢
  cases hw : s.waiting with
  | none =>
    rw [hw] at h
    cases h
    simp only [hw]
  | some waiting =>
    rw [hw] at h
    -- what makes an argument be refused are those given before it, and its value
    simp only [Seen.give, Seen.has] at h ⊢
    split at h
    · cases h
    split at h
    · cases h
    split at h
    · cases h
    rename_i hvalue hnew hempty
    cases h
    rw [if_neg hvalue, if_neg hnew, if_neg hempty]

/-! ## What is seen after each word -/

variable {s : Seen} {o : CompileOrder} {last : Bool}

theorem sees_of_given (hwaiting : s.waiting = none) (h : Given s.given o) :
    Sees s o s.trailing := by
  refine ⟨⟨s, ?_, hwaiting, rfl, h⟩, ?_, rfl, ?_⟩
  · unfold Seen.settle
    rw [hwaiting]
  · unfold Seen.awaits
    rw [hwaiting]
  · unfold Seen.mentions
    rw [hwaiting]
    exact (Bool.or_false _).trans h.has_file

/-- An argument that is new is taken with the value that it needs. -/
theorem give_of_new {a : Argument} {value : Option String} (hnew : s.has a = false)
    (hvalue : ¬ (a.takesValue = true ∧ value = none)) (hfile : ¬ (a = .file ∧ value = some "")) :
    s.give a value = .ok { s with given := s.given ++ [(a, value.getD "")] } := by
  unfold Seen.give
  rw [if_neg hvalue, hnew, if_neg Bool.false_ne_true, if_neg hfile]

theorem Sees.withFlag (h : Sees s o false) {f : Flag} (hf : f.decided o = false) :
    ∃ s', Level.compile.step f.word s = .ok s' ∧ Sees s' (f.set o) false := by
  obtain ⟨t, hsettle, hwaiting, htrailing, hgiven⟩ := h.settled
  have hnew : t.has f.argument = false := by
    have hholds : f.holds o = false := by
      obtain ⟨file, verify, counterexamples, run⟩ := o
      cases f <;> cases verify <;> simp_all [Flag.decided, Flag.holds]
    exact (hgiven.flags f).trans hholds
  have hgive : t.give f.argument none = .ok { t with given := t.given ++ [(f.argument, "")] } := by
    refine give_of_new hnew (fun hc => ?_) (fun hc => by cases hc.2)
    cases f <;> cases hc.1
  have hstep : Level.compile.step f.word s =
      .ok { t with given := t.given ++ [(f.argument, "")] } := by
    rw [step_flag f h.trailing, Seen.take, hsettle, ← hgive]
    cases f <;> rfl
  refine ⟨_, hstep, ?_⟩
  rw [← h.trailing, ← htrailing]
  exact sees_of_given hwaiting (hgiven.withFlag hf)

/-- The name of a file waits until the next word is looked at, with its value. -/
theorem Sees.withFile (h : Sees s o last) (hnone : o.file = none) {name : String}
    (hname : name ≠ "") :
    ∃ s', Level.compile.word name s = .ok s' ∧ Sees s' { o with file := some name } last := by
  obtain ⟨t, hsettle, hwaiting, htrailing, hgiven⟩ := h.settled
  have hfree : s.mentions .file = false := by
    rw [h.mentions, hnone]
    rfl
  have hnew : t.has .file = false := by
    have hhas := hgiven.has_file
    rw [hnone] at hhas
    exact hhas
  have hword : Level.compile.word name s = .ok { t with waiting := some (.file, some name) } := by
    unfold Level.word
    show (if s.mentions .file = true then _ else s.expect .file (some name)) = _
    rw [hfree, if_neg Bool.false_ne_true, Seen.expect, hsettle]
    rfl
  -- once it is looked at, it is the first file and has its name
  have hgive : Seen.settle { t with waiting := some (.file, some name) } =
      .ok { t with given := t.given ++ [(.file, name)], waiting := none } :=
    give_of_new (s := { t with waiting := none }) hnew (fun hc => by cases hc.2)
      (fun hc => hname (Option.some.inj hc.2))
  refine ⟨_, hword, ⟨_, hgive, rfl, rfl, hgiven.withFile hnone name⟩, rfl, ?_, ?_⟩
  · exact htrailing.trans h.trailing
  · exact Bool.or_true _

theorem Sees.afterDashes (h : Sees s o false) :
    ∃ s', Level.compile.step "--" s = .ok s' ∧ Sees s' o true := by
  obtain ⟨t, hsettle, hwaiting, -, hgiven⟩ := h.settled
  refine ⟨{ s with trailing := true }, ?_, ?_, h.complete, rfl, h.mentions⟩
  · unfold Level.step
    rw [h.trailing]
    rfl
  · exact ⟨_, settle_trailing hsettle, hwaiting, rfl, hgiven⟩

/-- What is seen after the words of an order is the order. -/
theorem reads_of_spells {words : List String} (h : o.Spells last words) :
    ∃ s, Level.compile.read .nothing words = .ok (s, none) ∧ Sees s o last := by
  induction h with
  | plain => exact ⟨.nothing, rfl, sees_of_given rfl given_nil⟩
  | flag _ hf ih =>
    obtain ⟨s, hread, hsees⟩ := ih
    obtain ⟨s', hstep, hsees⟩ := hsees.withFlag hf
    exact ⟨s', (read_append rfl hread).trans (read_single rfl hstep), hsees⟩
  | file _ hnone hname ih =>
    obtain ⟨s, hread, hsees⟩ := ih
    obtain ⟨s', hword, hnamed⟩ := hsees.withFile hnone hname.1
    have hstep := (step_name hname hsees.trailing hsees.complete).trans hword
    exact ⟨s', (read_append rfl hread).trans (read_single rfl hstep), hnamed⟩
  | afterDashes _ hnone hname ih =>
    obtain ⟨s, hread, hsees⟩ := ih
    obtain ⟨s₁, hdashes, hsees⟩ := hsees.afterDashes
    obtain ⟨s₂, hword, hnamed⟩ := hsees.withFile hnone hname
    have hstep := (step_trailing hsees.trailing _).trans hword
    refine ⟨s₂, (read_append rfl hread).trans ?_, hnamed⟩
    rw [read_cons rfl, hdashes]
    exact read_single rfl hstep

/-- A level ends well if of the flags that exclude each other one was given at most. -/
theorem finish_of_settle {t : Seen} (h : s.settle = .ok t)
    (hchoice : (t.given.filter fun g => g.1 == .verify || g.1 == .noVerify).length ≤ 1) :
    s.finish = .ok t := by
  unfold Seen.finish
  simp only [h, bind, Except.bind]
  split
  · rename_i first second rest hfilter
    rw [hfilter] at hchoice
    simp at hchoice
  · rfl

end WordLemmas

open WordLemmas

/-- The words that spell a command are read as that command, with no options. -/
theorem CommandLine.read_spelled {order : Order} {words : List String} (h : order.Spelled words) :
    CommandLine.read words = .ok ⟨none, none, order⟩ := by
  cases h with
  | session => rfl
  | @compile o last words hspells =>
    obtain ⟨s, hread, hsees⟩ := reads_of_spells hspells
    obtain ⟨t, hsettle, -, -, hgiven⟩ := hsees.settled
    have hchoice : o.verify.toList.length ≤ 1 := by cases o.verify <;> simp
    have hfinish : s.finish = .ok t := finish_of_settle hsettle (hgiven.choice ▸ hchoice)
    have hlast : Level.compile.readLast words = .ok t := by
      unfold Level.readLast
      rw [hread]
      exact hfinish
    have hserver : t.value? .server = none := hgiven.server
    have hdb : t.value? .db = none := hgiven.db
    have hread : CommandLine.read ("compile" :: words) =
        .ok (ofLevels .nothing t (.compile (CommandLine.compileOrder t))) := by
      have htop : Level.top.read .nothing ("compile" :: words) =
          .ok (.nothing, some (.compile, words)) := rfl
      unfold CommandLine.read
      rw [htop]
      show (Level.compile.readLast words).bind _ = _
      rw [hlast]
      rfl
    rw [hread, hgiven.compileOrder, ofLevels, hserver, hdb]
    rfl

end CompileSession
