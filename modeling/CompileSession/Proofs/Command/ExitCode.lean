import CompileSession.Proofs.Client
import CompileSession.Proofs.Command.CarryOver
import CompileSession.Proofs.Response.Spelling
import CompileSession.Proofs.Service.Exchange
import CompileSession.Proofs.Session.Gate

/-!
# What the exit code of a compilation tells

An order to compile ends in one of three ways: its source cannot be read, no whole answer comes to
its request, or a whole answer comes, with a status and a body. The exit code follows from that, and
from what becomes of the program that was asked to be run.

Results:
1. `CompileOrder.submit_eq` and `CompileOrder.submit_settled`: how the request of an order is
   settled.
2. `CompileOrder.leaves_carryOut`: all that an order can leave, one case for each way it can end.
3. `CompileOrder.Leaves.code_tells`, `CompileOrder.Leaves.stdout_eq` and
   `CompileOrder.Leaves.programs_eq`: what the cases come to.
4. `FileTree.exit_code_tells`: the same of a run of the program.
-/

namespace CompileSession

/-! ## What comes of an order -/

/-- What comes of an order before any program is run. -/
inductive Upshot where
  /-- the source cannot be read, and nothing is sent -/
  | unread
  /-- the request cannot be sent, or no whole answer to it comes -/
  | unanswered
  /-- a whole answer comes -/
  | answered (status : Nat) (body : List UInt8)

namespace Upshot

/-- What comes of an order whose source was read, by what comes of its request. -/
def ofExchange : Option Exchange → Upshot
  | some (.answered status body) => .answered status body
  | _ => .unanswered

theorem ofExchange_of_unanswered {exchange : Option Exchange}
    (h : ∀ status body, exchange ≠ some (.answered status body)) :
    ofExchange exchange = .unanswered := by
  unfold ofExchange
  split
  · exact absurd rfl (h _ _)
  · rfl

/-- An answer came with a status that tells success, and its body decodes to `outcome`. -/
def Brings (u : Upshot) (outcome : Outcome) : Prop :=
  ∃ status body, u = .answered status body ∧ 200 ≤ status ∧ status < 300 ∧
    (Desk.decodeBody (Text.decodeLossy body)).1 = .ok outcome

/-- An answer came that is of no use: its status does not tell success, whatever its body is, or its
body cannot be decoded. -/
def Useless (u : Upshot) : Prop :=
  ∃ status body, u = .answered status body ∧
    (¬ (200 ≤ status ∧ status < 300) ∨
      ∃ e, (Desk.decodeBody (Text.decodeLossy body)).1 = .error e)

/-- The response that the session gets, if an answer came. -/
def response? : Upshot → Option Response
  | .answered status body => some (Exchange.response status body).1
  | _ => none

variable {u : Upshot}

theorem response?_eq_none_iff : u.response? = none ↔ u = .unread ∨ u = .unanswered := by
  cases u <;> simp [response?]

theorem response?_eq_some_iff {r : Response} :
    u.response? = some r ↔
      ∃ status body, u = .answered status body ∧ (Exchange.response status body).1 = r := by
  cases u with
  | answered status body =>
    constructor
    · exact fun h => ⟨status, body, rfl, Option.some.inj h⟩
    · rintro ⟨_, _, ⟨rfl, rfl⟩, h⟩
      exact congrArg some h
  | _ => exact ⟨nofun, nofun⟩

theorem brings_iff {outcome : Outcome} : u.Brings outcome ↔ u.response? = some (.ok outcome) := by
  rw [response?_eq_some_iff]
  simp only [Brings, Exchange.response_eq_ok_iff]

theorem useless_iff : u.Useless ↔ ∃ e, u.response? = some (.error e) := by
  constructor
  · rintro ⟨status, body, rfl, h⟩
    obtain ⟨e, he⟩ := Exchange.response_eq_error_iff.2 h
    exact ⟨e, congrArg some he⟩
  · rintro ⟨e, he⟩
    obtain ⟨status, body, rfl, hresponse⟩ := response?_eq_some_iff.1 he
    exact ⟨status, body, rfl, Exchange.response_eq_error_iff.1 ⟨e, hresponse⟩⟩

end Upshot

/-! ## What an order leaves -/

namespace CompileOrder

/-- What comes of an order, by its source, the session saved last, and the network. -/
def upshot (o : CompileOrder) (config : Config) (network : Network) (source : Source)
    (last : Option Saved) : Upshot :=
  let sent (text : Option String) : Upshot :=
    .ofExchange (config.exchange? network (o.requestOf (o.submission text last)))
  match source with
  | some (.error _) => .unread
  | some (.ok text) => sent (some text)
  | none => sent none

/-- The session of an order after a response to its request. -/
def ended {σ : Type} [KeyValue σ] (o : CompileOrder) (store : SessionStore σ) (source : Source)
    (r : Response) : Session :=
  let s := (opened store (source.bind Except.toOption)).desk.session
  (s.submit (o.flags s.flags)).receive s.nextRequest r

/-- The exit code that a response calls for, if no program is run. -/
def responseCode : Response → Nat
  | .ok (.success _) => 0
  | .ok (.errors _) => 1
  | .ok (.exception _) => 2
  | .error _ => 2

theorem exitCode_accept (s : Session) (r : Response) :
    exitCode (s.accept r).status = responseCode r := by
  obtain e | (artifact | ds | message) := r <;> rfl

/-- All that a run of an order can leave, by the response that came, if one did. The session after a
response is `ended` of it, and `system` runs the program. -/
inductive Leaves (o : CompileOrder) (config : Config) (system : Launcher)
    (ended : Response → Session) : Option Response → Ran → Prop
  | nothing {ran : Ran} :
      ran.code = 3 → ran.stdout = "" → ran.programs = [] → Leaves o config system ended none ran
  | reported {r : Response} {ran : Ran} :
      (o.run = true → ∀ artifact, r ≠ .ok (.success artifact)) → ran.code = responseCode r →
      ran.stdout = Report.render (ended r).pane (ended r).log → ran.programs = [] →
      Leaves o config system ended (some r) ran
  | executed {artifact : String} {ran : Ran} :
      o.run = true →
      ran.code = (match system.sink config.node artifact entryPoint with
        | .ok _ => 0
        | .error _ => 3) →
      ran.stdout = Report.render (ended (.ok (.success artifact))).pane
          (ended (.ok (.success artifact))).log ++
        (system config.node (script artifact entryPoint)).output →
      ran.programs = [(artifact, entryPoint)] →
      Leaves o config system ended (some (.ok (.success artifact))) ran

section
variable {o : CompileOrder} {config : Config} {system : Launcher} {ended : Response → Session}
variable {answer : Option Response} {ran : Ran}

/-- What the exit code tells. Every code has one list of causes, and the causes exclude one
another, so the case of what was left settles all four. -/
theorem Leaves.code_tells (h : Leaves o config system ended answer ran) :
    (ran.code = 0 ↔ ∃ artifact, answer = some (.ok (.success artifact)) ∧
      (o.run = false ∨ system.sink config.node artifact entryPoint = .ok ())) ∧
    (ran.code = 1 ↔ ∃ ds, answer = some (.ok (.errors ds))) ∧
    (ran.code = 2 ↔ (∃ e, answer = some (.error e)) ∨
      ∃ message, answer = some (.ok (.exception message))) ∧
    (ran.code = 3 ↔ answer = none ∨ ∃ artifact e, answer = some (.ok (.success artifact)) ∧
      o.run = true ∧ system.sink config.node artifact entryPoint = .error e) := by
  cases h with
  | nothing hcode => simp [hcode]
  | @reported r _ hplain hcode =>
    rw [hcode]
    obtain e | (artifact | ds | message) := r
    · simp [responseCode]
    · have hrun : o.run = false := by simpa using hplain
      simp [responseCode, hrun]
    · simp [responseCode]
    · simp [responseCode]
  | @executed artifact _ hrun hcode =>
    cases hsink : system.sink config.node artifact entryPoint <;> simp [hcode, hrun, hsink]

/-- A report is written if a response came, and what the programs write comes after it. -/
theorem Leaves.stdout_eq (h : Leaves o config system ended answer ran) :
    (answer = none → ran.stdout = "") ∧
    (∀ r, answer = some r → ran.stdout = Report.render (ended r).pane (ended r).log ++
      String.join (ran.programs.map fun p => (system config.node (script p.1 p.2)).output)) := by
  cases h with
  | nothing _ hstdout => exact ⟨fun _ => hstdout, nofun⟩
  | reported _ _ hstdout hprograms =>
    refine ⟨nofun, fun r hr => ?_⟩
    cases hr
    simp [hstdout, hprograms]
  | executed _ _ hstdout hprograms =>
    refine ⟨nofun, fun r hr => ?_⟩
    cases hr
    simp [hstdout, hprograms]

/-- The program run is that of a success, if it is ordered to run it, and no other is. -/
theorem Leaves.programs_eq (h : Leaves o config system ended answer ran) :
    (∀ artifact, answer = some (.ok (.success artifact)) → o.run = true →
      ran.programs = [(artifact, entryPoint)]) ∧
    ((∀ artifact, ¬ answer = some (.ok (.success artifact))) ∨ o.run = false →
      ran.programs = []) := by
  cases h with
  | nothing _ _ hprograms => exact ⟨nofun, fun _ => hprograms⟩
  | reported hplain _ _ hprograms =>
    exact ⟨fun artifact hr hrun => absurd (Option.some.inj hr) (hplain hrun artifact),
      fun _ => hprograms⟩
  | @executed artifact _ hrun _ _ hprograms =>
    refine ⟨fun other hother _ => ?_, ?_⟩
    · cases hother
      exact hprograms
    · rintro (hno | hplain)
      · exact absurd rfl (hno artifact)
      · rw [hrun] at hplain
        cases hplain

end

/-! ### Settling the request -/

section
variable {σ : Type} [KeyValue σ] {o : CompileOrder} {config : Config} {around : Surroundings}
variable {store : SessionStore σ}

/-- Submitting an order settles its request by what is delivered for it. -/
theorem submit_eq (o : CompileOrder) (config : Config) (network : Network)
    (store : SessionStore σ) (text : Option String) :
    let c := opened store text
    let s := c.desk.session
    let delivery := (config.dispatch network (o.requestOf (o.submission text store.load.1))).1
    let d := (c.desk.submit (o.flags s.flags)).deliver s.nextRequest delivery
    o.submit config network c = (⟨d, []⟩, Client.settledBy delivery d) := by
  intro c s delivery d
  obtain ⟨-, -, hnumber, -, -, -, hqueue⟩ := opened_session store text
  obtain ⟨hcompile, -⟩ := submit_dispatches o config store text network
  have harrived : c.queue ++ [(firstRequest, delivery)] =
      [] ++ (s.nextRequest, delivery) :: [] := by
    rw [hqueue, hnumber]
  exact hcompile.trans (Client.compile_of_queue harrived nofun _)

/-- The session after a response, of which no program was run yet. -/
theorem deliver_response (o : CompileOrder) (store : SessionStore σ) (text : Option String)
    (r : Response) :
    let c := opened store text
    let s := c.desk.session
    let d := (c.desk.submit (o.flags s.flags)).deliver s.nextRequest (.response r)
    d.session = o.ended store (text.map .ok) r ∧
      (∃ cleared : Session, d.session = cleared.accept r) ∧ d.runs = [] := by
  intro c s d
  obtain ⟨-, -, -, -, -, hruns, -⟩ := opened_session store text
  have hended : d.session = o.ended store (text.map .ok) r := by
    cases text <;> rfl
  exact ⟨hended, ⟨_, Session.receive_of_pending rfl r⟩, hruns⟩

/-- A request that was settled by an answer never leaves a session that waits, or that has nothing
to run after a success. -/
theorem submit_settled {network : Network} {text : Option String} {status : Status}
    (h : (o.submit config network (opened store text)).2 = .ok status) :
    (status = .succeeded ∨ ∃ why, status = .failed why) ∧
      (status = .succeeded →
        ∃ artifact, (o.submit config network (opened store text)).1.desk.session.runnable =
          some artifact) := by
  have hsubmit := submit_eq o config network store text
  cases hdelivery :
      (config.dispatch network (o.requestOf (o.submission text store.load.1))).1 with
  | failed e =>
    simp only [hdelivery] at hsubmit
    rw [hsubmit] at h
    cases h
  | response r =>
    simp only [hdelivery] at hsubmit
    obtain ⟨-, ⟨cleared, haccept⟩, -⟩ := deliver_response o store text r
    rw [hsubmit] at h ⊢
    cases h
    simp only [haccept]
    have hgate := Session.gateHolds_accept cleared r
    exact ⟨Session.accept_status _ r,
      fun hsucceeded => hgate.armed_iff_runnable.1 (hgate.armed_iff.2 hsucceeded)⟩

/-! ### Reporting and running -/

/-- A program that may be run is run once, and the code tells what came of it. -/
theorem runProgram_of_runnable {d : Desk σ} {artifact : String}
    (hrunnable : d.session.runnable = some artifact) (hruns : d.runs = []) (config : Config)
    (system : Launcher) (report : String) :
    let ran := runProgram config system report d
    ran.code = (match system.sink config.node artifact entryPoint with
      | .ok _ => 0
      | .error _ => 3) ∧
    ran.stdout = report ++ (system config.node (script artifact entryPoint)).output ∧
    ran.programs = [(artifact, entryPoint)] := by
  obtain ⟨hprograms, hresult⟩ := Desk.run_of_runnable hrunnable (system.sink config.node)
  rw [hruns] at hprograms
  unfold runProgram
  simp only [hrunnable, hprograms, hresult, entryPoint]
  cases system.sink config.node artifact "main" <;> exact ⟨rfl, rfl, rfl⟩

/-- An order whose request was answered reports on the session, and its program is run if that is
ordered and there is one. -/
theorem leaves_answered {s : Session} {r : Response} {d : Desk σ} {ended : Response → Session}
    (hended : d.session = ended r) (haccept : d.session = s.accept r) (hruns : d.runs = [])
    (queue : List Tagged) :
    Leaves o config around.system ended (some r)
      (carryOut.finish o config around (⟨d, queue⟩, .ok d.session.status)).1 := by
  have hgate : d.session.GateHolds := haccept ▸ Session.gateHolds_accept s r
  have hprogram (artifact : String) :
      d.session.runnable = some artifact ↔ r = .ok (.success artifact) :=
    haccept ▸ Session.runnable_accept_iff s r artifact
  unfold carryOut.finish
  by_cases hrun : o.run = true ∧ d.session.status = .succeeded
  · obtain ⟨artifact, hrunnable⟩ := hgate.armed_iff_runnable.1 (hgate.armed_iff.2 hrun.2)
    obtain rfl := (hprogram artifact).1 hrunnable
    obtain ⟨hcode, hstdout, hprograms⟩ := runProgram_of_runnable hrunnable hruns config
      around.system (Report.render d.session.pane d.session.log)
    simp only [if_pos hrun]
    exact .executed hrun.1 hcode (hended ▸ hstdout) hprograms
  · simp only [if_neg hrun]
    refine .reported (fun horder artifact hr => hrun ⟨horder, ?_⟩) ?_ ?_ rfl
    · exact hgate.armed_iff.1 (hgate.armed_iff_runnable.2 ⟨artifact, (hprogram artifact).2 hr⟩)
    · exact (congrArg (fun s : Session => exitCode s.status) haccept).trans (exitCode_accept s r)
    · exact congrArg (fun s : Session => Report.render s.pane s.log) hended

/-- All that an order can leave follows from the response that came, if one did. -/
theorem leaves_carryOut (o : CompileOrder) (config : Config) (around : Surroundings)
    (source : Source) (store : SessionStore σ) :
    Leaves o config around.system (o.ended store source)
      (o.upshot config around.network source store.load.1).response?
      (o.carryOut config around source store).1 := by
  rcases source_cases source with ⟨fault, rfl⟩ | ⟨text, rfl⟩
  · exact .nothing rfl rfl rfl
  have hupshot : o.upshot config around.network (text.map .ok) store.load.1 =
      .ofExchange (config.exchange? around.network
        (o.requestOf (o.submission text store.load.1))) := by
    cases text <;> rfl
  have hsubmit := submit_eq o config around.network store text
  rw [carryOut_eq, hupshot]
  generalize hrequest : o.requestOf (o.submission text store.load.1) = request at hsubmit ⊢
  by_cases hanswered : ∃ status body,
      config.exchange? around.network request = some (.answered status body)
  · obtain ⟨status, body, hexchange⟩ := hanswered
    obtain ⟨hended, ⟨cleared, haccept⟩, hruns⟩ :=
      deliver_response o store text (Exchange.response status body).1
    simp only [Config.dispatch_of_answered hexchange] at hsubmit
    rw [hsubmit, hexchange]
    exact leaves_answered hended haccept hruns []
  · have hnot : ∀ status body,
        config.exchange? around.network request ≠ some (.answered status body) :=
      fun status body h => hanswered ⟨status, body, h⟩
    obtain ⟨e, hfailed⟩ := Config.dispatch_of_unanswered hnot
    simp only [hfailed] at hsubmit
    rw [hsubmit, Upshot.ofExchange_of_unanswered hnot]
    exact .nothing rfl rfl rfl

end

end CompileOrder

/-! ## The program as a whole -/

/-- What a run of the program with an order to compile tells by its exit code, over every tree of
files, environment, saved session, network and set of programs. The code is 1 for errors in the
source, also for none; 2 for an answer that is of no use or tells of an exception; 0 for a success,
if its program was run to a good end or was not to be run; and 3 for whatever else comes of an
order. A report is written if a whole answer came, and a program is run if it comes of a success and
is to be run: that one, and once. After an answer the session neither waits nor, if it succeeded, is
without a program to run. -/
theorem FileTree.exit_code_tells (t : FileTree) (environment : String → Option String)
    (network : Network) (programs : Programs) {words : List String} {c : CommandLine}
    {o : CompileOrder} (hread : CommandLine.read words = .ok c) (horder : c.order = .compile o) :
    let config := c.config environment
    let opened := t.openStore config.dbPath
    let source := o.file.map opened.during.read
    let system := opened.during.launcher (programs.within environment)
    let sink := fun artifact => system.sink config.node artifact "main"
    let upshot := o.upshot config network source opened.store.load.1
    let settled := o.submit config network
      (CompileOrder.opened opened.store (source.bind Except.toOption))
    let ran := (t.invoke environment network programs words).1
    (ran.code = 0 ↔
      ∃ artifact, upshot.Brings (.success artifact) ∧ (o.run = false ∨ sink artifact = .ok ())) ∧
    (ran.code = 1 ↔ ∃ ds, upshot.Brings (.errors ds)) ∧
    (ran.code = 2 ↔ upshot.Useless ∨ ∃ message, upshot.Brings (.exception message)) ∧
    (ran.code = 3 ↔ upshot = .unread ∨ upshot = .unanswered ∨
      ∃ artifact e, upshot.Brings (.success artifact) ∧ o.run = true ∧
        sink artifact = .error e) ∧
    (upshot = .unread ∨ upshot = .unanswered → ran.stdout = "") ∧
    (∀ status body, upshot = .answered status body →
      let s := o.ended opened.store source (Exchange.response status body).1
      ran.stdout = Report.render s.pane s.log ++
        String.join (ran.programs.map fun p => (system config.node (script p.1 p.2)).output)) ∧
    (∀ artifact, upshot.Brings (.success artifact) → o.run = true →
      ran.programs = [(artifact, "main")]) ∧
    ((∀ artifact, ¬ upshot.Brings (.success artifact)) ∨ o.run = false → ran.programs = []) ∧
    (∀ status, settled.2 = .ok status →
      (status = .succeeded ∨ ∃ why, status = .failed why) ∧
      (status = .succeeded →
        ∃ artifact, settled.1.desk.session.runnable = some artifact)) := by
  intro config opened source system sink upshot settled ran
  have hran : ran = (o.carryOut config ⟨network, system⟩ source opened.store).1 := by
    show (t.invoke environment network programs words).1 = _
    unfold invoke carryOut
    rw [hread]
    simp only [horder]
    rfl
  have hleaves := o.leaves_carryOut config ⟨network, system⟩ source opened.store
  rw [← hran] at hleaves
  obtain ⟨hzero, hone, htwo, hthree⟩ := hleaves.code_tells
  obtain ⟨hexecuted, hspared⟩ := hleaves.programs_eq
  obtain ⟨hunanswered, hanswered⟩ := hleaves.stdout_eq
  simp only [← Upshot.brings_iff, ← Upshot.useless_iff, Upshot.response?_eq_none_iff,
    or_assoc] at hzero hone htwo hthree hexecuted hspared hunanswered
  exact ⟨hzero, hone, htwo, hthree, hunanswered,
    fun status body hanswer => hanswered _ (congrArg Upshot.response? hanswer),
    hexecuted, hspared, fun status => CompileOrder.submit_settled⟩

/-- A success whose artifact is empty. -/
def emptySuccess : Json := .object [("js", .text ""), ("result", .text "success")]

/-- A network that gives every request this success, under the given status. -/
def answeringNetwork (status : Nat) : Network := fun _ _ =>
  .answered status (Text.encode emptySuccess.render.toList)

theorem addressGiven_exchange (status : Nat) (r : Request) :
    addressGiven.exchange? (answeringNetwork status) r =
      some (.answered status (Text.encode emptySuccess.render.toList)) := by
  obtain ⟨address, haddress, hcarries⟩ := addressGiven_carries
  exact Config.exchange?_of_address haddress hcarries

theorem emptySuccess_decoded :
    (Desk.decodeBody (Text.decodeLossy (Text.encode emptySuccess.render.toList))).1 =
      .ok (.success "") := by
  have hbody : Text.decodeLossy (Text.encode emptySuccess.render.toList) = emptySuccess.render := by
    decide +kernel
  have hcanonical : emptySuccess.Canonical :=
    ⟨by unfold Json.Ascending; decide, trivial, trivial, trivial⟩
  rw [hbody]
  unfold Desk.decodeBody
  rw [Decoded.ofText_render hcanonical (by decide)]
  rfl

/-- Where no program is found, the success cannot be run; under a status that does not tell success
it is none. -/
theorem exit_code_tells_emptySuccess :
    let environment := fun name => if name = "WYLAB_SERVER_URL" then some "http://[::1]" else none
    let words := ["compile", "--run", "main.whiley", "--no-verify"]
    let ran := fun status =>
      (oneSource.invoke environment (answeringNetwork status) ⟨[], ""⟩ words).1
    (ran 200).code = 3 ∧ (ran 200).programs = [("", "main")] ∧
      (ran 500).code = 2 ∧ (ran 500).programs = [] := by
  intro environment words ran
  let o : CompileOrder := ⟨some "main.whiley", some false, false, true⟩
  have hread : CommandLine.read words = .ok ⟨none, none, .compile o⟩ := by rfl
  have hconfig : CommandLine.config ⟨none, none, .compile o⟩ environment = addressGiven := by
    decide
  have hsource : (oneSource.openStore addressGiven.dbPath).during.read "main.whiley" =
      .ok "skip" := by rfl
  have hupshot (status : Nat) (last : Option Saved) :
      o.upshot addressGiven (answeringNetwork status) (some (.ok "skip")) last =
        .answered status (Text.encode emptySuccess.render.toList) :=
    congrArg Upshot.ofExchange
      (addressGiven_exchange status (o.requestOf (o.submission (some "skip") last)))
  have htells (status : Nat) := oneSource.exit_code_tells environment (answeringNetwork status)
    ⟨[], ""⟩ hread rfl
  simp only [hconfig, show o.file = some "main.whiley" from rfl, Option.map_some, hsource,
    hupshot] at htells
  obtain ⟨-, -, -, hthree, -, -, hexecuted, -⟩ := htells 200
  obtain ⟨-, -, htwo, -, -, -, -, hspared, -⟩ := htells 500
  have hbrings : (Upshot.answered 200 (Text.encode emptySuccess.render.toList)).Brings
      (.success "") := ⟨200, _, rfl, by decide, by decide, emptySuccess_decoded⟩
  refine ⟨hthree.2 (.inr (.inr ⟨"", _, hbrings, rfl, rfl⟩)), hexecuted "" hbrings rfl,
    htwo.2 (.inl ⟨500, _, rfl, .inl (by decide)⟩), hspared (.inl ?_)⟩
  rintro artifact ⟨status, body, hanswer, -, hless, -⟩
  cases hanswer
  exact absurd hless (by decide)

end CompileSession
