import CompileSession.Proofs.Request.Bodies
import CompileSession.Proofs.Service.Exchange

/-!
# What is posted for a request

The settings choose in which of its two bodies a request is posted, and the content type tells the
service how to read it. So the service finds the same three fields in whatever is posted for a
request, and requests that differ are told apart by their bodies alone.

Results:
1. `Config.fields?_posted`: the fields that a service finds in what is posted to it.
2. `Config.posted_carries_fields`: what is posted under either encoding, and that it is sent.
-/

namespace CompileSession

/-- The fields that a service finds in what is posted to it, reading the body as the content type
says. -/
def Posted.fields? (p : Posted) : Option (List (String × String)) :=
  if p.contentType = "application/x-www-form-urlencoded" then some (Form.read p.body)
  else if p.contentType = "application/json" then
    (Request.ofText p.body).toOption.map Request.formFields
  else none

namespace Config

/-- Under any settings a service finds the fields of the request in what is posted for it. -/
theorem fields?_posted (c : Config) (address : Url) (r : Request) :
    (c.posted address r).fields? = some r.formFields := by
  unfold Posted.fields? posted
  cases c.encoding with
  | form => exact congrArg some r.read_body
  | json =>
    show (Request.ofText (r.body .json)).toOption.map Request.formFields = _
    rw [Request.ofText_body]
    rfl

/-- Whatever the settings and the address are, what is posted for a request carries the request,
unchanged and whole. As a form it is pure ASCII and is read as the code, then the two flags; as a
JSON document it is read as the request. Under either encoding a service that goes by the content
type finds the same three fields. Two bodies are the same only if the encoding and the request are.
This is what the network gets, if the settings name an address to which requests can be sent. -/
theorem posted_carries_fields (c : Config) (address : Url) (r : Request) :
    let sent := c.posted address r
    let fields := [("code", r.code), ("verify", if r.verify then "true" else "false"),
      ("counterexamples", if r.counterexamples then "true" else "false")]
    (c.encoding = .form →
      sent.contentType = "application/x-www-form-urlencoded" ∧
      (∀ char ∈ sent.body.toList, char.toNat < 128) ∧
      Form.read sent.body = fields) ∧
    (c.encoding = .json →
      sent.contentType = "application/json" ∧
      Request.ofText sent.body = .ok r) ∧
    sent.fields? = some fields ∧
    (∀ (c' : Config) (address' : Url) (r' : Request),
      sent.body = (c'.posted address' r').body ↔ c.encoding = c'.encoding ∧ r = r') ∧
    ∀ network, (Url.ofText? c.endpoint).map Url.withoutCredentials = some address →
      address.carriesRequests = true →
      c.dispatch network r = (network address sent).delivery address := by
  intro sent fields
  have hbody : sent.body = r.body c.encoding := rfl
  have htype : sent.contentType = c.encoding.contentType := rfl
  refine ⟨fun hform => ?_, fun hjson => ?_, c.fields?_posted address r,
    fun _ _ _ => Request.body_inj, fun network => dispatch_of_address⟩
  · rw [hbody, htype, hform]
    exact ⟨rfl, r.toNat_lt_body, r.read_body⟩
  · rw [hbody, htype, hjson]
    exact ⟨rfl, r.ofText_body⟩

/-- The source has the characters that a form sets apart, a line break, NUL and characters beyond
ASCII and beyond the first plane. -/
theorem posted_carries_fields_setApart :
    let json : Config := { addressGiven with encoding := .json }
    let r : Request := ⟨"a&b=c+d% \n\x00é😀", true, false⟩
    ∃ address, (Url.ofText? addressGiven.endpoint).map Url.withoutCredentials = some address ∧
      address.carriesRequests = true ∧
      Form.read (addressGiven.posted address r).body =
        [("code", "a&b=c+d% \n\x00é😀"), ("verify", "true"), ("counterexamples", "false")] ∧
      Request.ofText (json.posted address r).body = .ok r ∧
      (addressGiven.posted address r).fields? = (json.posted address r).fields? ∧
      (addressGiven.posted address r).body ≠ (json.posted address r).body ∧
      addressGiven.dispatch .unreachable r =
        (Network.unreachable address (addressGiven.posted address r)).delivery address := by
  intro json r
  obtain ⟨address, haddress, hcarries⟩ := addressGiven_carries
  obtain ⟨hform, -, hfields, hbody, hsent⟩ := posted_carries_fields addressGiven address r
  obtain ⟨-, hjson, hfields', -⟩ := posted_carries_fields json address r
  refine ⟨address, haddress, hcarries, (hform rfl).2.2, (hjson rfl).2, hfields.trans hfields'.symm,
    fun h => ?_, hsent .unreachable haddress hcarries⟩
  exact absurd ((hbody json address r).1 h).1 (by decide)

end Config

end CompileSession
