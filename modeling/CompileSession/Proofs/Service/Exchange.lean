import CompileSession.Service.Exchange

/-!
# What comes of a request

A request is sent if the settings name an address to which requests can be sent. Only a whole answer
makes a response, and only a status that tells success lets its body be decoded; everything else
that can happen is delivered as a failure.

Results:
1. `Exchange.response_eq_ok_iff` and `Exchange.response_eq_error_iff`: when an answer is of use.
2. `Config.dispatch_of_address`: what is sent, and where.
3. `Config.dispatch_of_answered` and `Config.dispatch_of_unanswered`: what is delivered.
-/

namespace CompileSession

namespace Exchange

variable {status : Nat} {body : List UInt8}

theorem isSuccess_iff : isSuccess status = true ↔ 200 ≤ status ∧ status < 300 := by
  simp [isSuccess]

theorem response_of_success (h : 200 ≤ status ∧ status < 300) :
    (response status body).1 = (Desk.decodeBody (Text.decodeLossy body)).1 := by
  unfold response
  simp only [isSuccess_iff.2 h, if_true]

theorem response_of_not_success (h : ¬ (200 ≤ status ∧ status < 300)) :
    (response status body).1 = .error (.httpStatus status (Text.decodeLossy body)) := by
  unfold response
  simp only [mt isSuccess_iff.1 h]
  rfl

/-- An answer is understood if its status tells success and its body is. -/
theorem response_eq_ok_iff {outcome : Outcome} :
    (response status body).1 = .ok outcome ↔
      200 ≤ status ∧ status < 300 ∧ (Desk.decodeBody (Text.decodeLossy body)).1 = .ok outcome := by
  by_cases h : 200 ≤ status ∧ status < 300
  · rw [response_of_success h]
    exact ⟨fun hbody => ⟨h.1, h.2, hbody⟩, fun hbody => hbody.2.2⟩
  · rw [response_of_not_success h]
    exact ⟨nofun, fun hbody => absurd ⟨hbody.1, hbody.2.1⟩ h⟩

theorem response_eq_error_iff :
    (∃ e, (response status body).1 = .error e) ↔
      ¬ (200 ≤ status ∧ status < 300) ∨
        ∃ e, (Desk.decodeBody (Text.decodeLossy body)).1 = .error e := by
  by_cases h : 200 ≤ status ∧ status < 300
  · rw [response_of_success h]
    exact ⟨.inr, fun hbody => hbody.resolve_left fun hnot => hnot h⟩
  · rw [response_of_not_success h]
    exact ⟨fun _ => .inl h, fun _ => ⟨_, rfl⟩⟩

end Exchange

namespace Config

/-- What comes on the network of a request, if the settings name an address to which requests can be
sent. -/
def exchange? (c : Config) (network : Network) (r : Request) : Option Exchange :=
  ((Url.ofText? c.endpoint).map Url.withoutCredentials).bind fun address =>
    if address.carriesRequests then some (network address (c.posted address r)) else none

variable {c : Config} {network : Network} {r : Request}

theorem exchange?_of_address {address : Url}
    (h : (Url.ofText? c.endpoint).map Url.withoutCredentials = some address)
    (hcarries : address.carriesRequests = true) :
    c.exchange? network r = some (network address (c.posted address r)) := by
  unfold exchange?
  rw [h]
  exact if_pos hcarries

/-- What is delivered is what comes on the network of what is posted for the request. -/
theorem dispatch_of_address {address : Url}
    (h : (Url.ofText? c.endpoint).map Url.withoutCredentials = some address)
    (hcarries : address.carriesRequests = true) :
    c.dispatch network r = (network address (c.posted address r)).delivery address := by
  unfold dispatch
  simp only [h, if_pos hcarries]

/-- A whole answer is delivered as the response that it makes. -/
theorem dispatch_of_answered {status : Nat} {body : List UInt8}
    (h : c.exchange? network r = some (.answered status body)) :
    (c.dispatch network r).1 = .response (Exchange.response status body).1 := by
  obtain ⟨address, haddress, hexchange⟩ := Option.bind_eq_some_iff.1 h
  obtain ⟨hcarries, hanswered⟩ := Option.ite_none_right_eq_some.1 hexchange
  rw [dispatch_of_address haddress hcarries, Option.some.inj hanswered]
  rfl

/-- Whatever else comes of a request is delivered as a failure. -/
theorem dispatch_of_unanswered
    (h : ∀ status body, c.exchange? network r ≠ some (.answered status body)) :
    ∃ e, (c.dispatch network r).1 = .failed e := by
  unfold exchange? at h
  unfold dispatch
  cases haddress : (Url.ofText? c.endpoint).map Url.withoutCredentials with
  | none => exact ⟨_, rfl⟩
  | some address =>
    rw [haddress] at h
    by_cases hcarries : address.carriesRequests = true
    · simp only [if_pos hcarries, Option.bind_some] at h ⊢
      cases hexchange : network address (c.posted address r) with
      | answered status body => exact absurd (congrArg some hexchange) (h status body)
      | _ => exact ⟨_, rfl⟩
    · simp only [if_neg hcarries]
      exact ⟨_, rfl⟩

end Config

/-- The settings without an environment, but for the address. -/
def addressGiven : Config := { Config.default with serverUrl := "http://[::1]" }

/-- Requests can be sent to that address. -/
theorem addressGiven_carries :
    ∃ address, (Url.ofText? addressGiven.endpoint).map Url.withoutCredentials = some address ∧
      address.carriesRequests = true := by
  have hany : ((Url.ofText? addressGiven.endpoint).map Url.withoutCredentials).any
      Url.carriesRequests = true := by decide +kernel
  exact (Option.any_eq_true _ _).1 hany

end CompileSession
