import RaceAlbum.Proofs.Http.Envelopes

/-!
# The identifier of a request in its answer

Every answer has one header with the identifier of its request, and every envelope has the same identifier in it: the one that
came with the request, or else a new one (`answer_carries_requestId`). The identifier is taken once, before anything else is
done for the request, and noted, so that it is the same whatever the request ends in: an error is told under the noted one
(`errorResponse_of_noted`), and the header that is written last replaces no other one (`response_requestId`).
-/

namespace RaceAlbum

open Program

/-! ## What an envelope tells -/

/-- The identifier that an envelope tells. -/
def Value.toldId? (v : Value) : Option Value := (v.member? "meta").bind (member? "requestId")

/-- Data in an envelope comes with the identifier of the request. -/
theorem envelope_toldId (data : Value) (requestId : String) (now : Moment) (key? : Option String) :
    (envelope data requestId now key?).wire.toldId? = some (.text requestId) := by
  simp [envelope, Value.wire, Value.wireFields, Value.toldId?, Value.member?, Fields.find?, List.lookup_cons]

/-- A report comes with the identifier of the request. -/
theorem ErrorReport.body_toldId (report : ErrorReport) (development : Bool) (requestId path : String) (now : Moment) :
    (report.body development requestId path now).wire.toldId? = some (.text requestId) := by
  simp [body, Value.wire, Value.wireFields, Value.toldId?, Value.member?, Fields.find?, List.lookup_cons]

namespace Application

/-! ## What a response says before it is named -/

/-- A response to a request whose identifier is noted has no header with an identifier, or it has the one of the request. -/
theorem response_requestId {σ : Type} {h : Handler σ} {s s' : σ} {app : Application} {r : Request} {requestId : String}
    {a : Response} (hrun : run h (app.foreseenResponse r ⟨some requestId⟩) s = (.ok a, s') ∨
      ∃ f, run h (app.unforeseenResponse r ⟨some requestId⟩ f) s = (.ok a, s')) :
    ∀ given ∈ a.requestId?, given = requestId := by
  rcases hrun with hrun | ⟨f, hrun⟩
  · obtain ⟨reply, now, -, rfl⟩ := foreseenResponse_ok hrun
    exact responded_requestId app r requestId now reply
  · obtain ⟨now, rfl⟩ := unforeseenResponse_ok hrun
    exact responded_requestId app r requestId now (.error (.ofUnforeseen f.words))

/-! ## What an answer carries -/

/-- An answer has one header with an identifier. -/
theorem headers_all_requestId (a : Answer) : (headers a).all requestIdHeader = [a.requestId] := by
  have hlocation : (Headers.fold "location" == Headers.fold requestIdHeader) = false := by decide
  have hallowed : (Headers.fold "access-control-allow-origin" == Headers.fold requestIdHeader) = false := by decide
  have hexposed : (Headers.fold "access-control-expose-headers" == Headers.fold requestIdHeader) = false := by decide
  cases hl : a.location <;> cases ha : a.allowedSite <;> cases he : a.exposed <;>
    simp [headers, Headers.all, hl, ha, he, hlocation, hallowed, hexposed]

variable {app : Application} {r : Request} {requestId : String} {E : Except Failure Reply → Prop} {a : Answer}

/-- An answer carries an identifier: its header does, and its body if it is an envelope. -/
structure Carries (a : Answer) (requestId : String) : Prop where
  header : (headers a).all requestIdHeader = [requestId]
  body : ∀ v, a.body = .json v → v.IsEnvelope → v.toldId? = some (.text requestId)

/-- An answer has the identifier that it was given for. -/
theorem Gives.requestId_eq (h : app.Gives r requestId E a) : a.requestId = requestId := by
  have hkept (b : Answer) : (withoutBody r b).requestId = b.requestId := by
    unfold withoutBody
    split <;> rfl
  cases h with
  | verdict v => rfl
  | reply now _ _ => exact hkept _
  | apology now f => exact hkept _

/-- Whatever an answer is, it carries the identifier of its request. -/
theorem Gives.carries (h : app.Gives r requestId EndsPlainly a) : Carries a requestId where
  header := by rw [headers_all_requestId, h.requestId_eq]
  body v hv henvelope := by
    cases h.encloses hv henvelope with
    | data data now key => exact envelope_toldId data requestId now (some key)
    | report report now => exact report.body_toldId _ _ _ _

end Application

/-- Every request is answered, and the answer carries one identifier: there is one header with it, and it is in the body if that
is an envelope. It is the identifier that came with the request, unless that is missing or empty; then it is a new one. -/
theorem answer_carries_requestId {σ : Type} {h : Handler σ} (hsupplies : h.Supplies) (app : Application)
    (hmore : ∀ route ∈ app.more, route.RepliesPlainly) (r : Request) (s : σ) :
    let given := (r.headers.find? "X-Request-Id").getD ""
    ∃ answer s' requestId, run h (app.respond r) s = (.ok answer, s') ∧
      (Application.headers answer).all "X-Request-Id" = [requestId] ∧
      (given ≠ "" → requestId = given) ∧
      (given = "" → ∃ (id : Uuid) (s₁ : σ), h .takeId s = (.ok id, s₁) ∧ requestId = id.text) ∧
      ∀ v, answer.body = .json v → v.IsEnvelope → v.toldId? = some (.text requestId) := by
  intro given
  obtain ⟨answer, s', hrun⟩ := Application.respond_succeeds hsupplies app r s
  obtain ⟨requestId, s₁, hid, hgives⟩ := Application.respond_ok (Application.route_endsPlainly hmore r h) hrun
  have hcarries := hgives.carries
  refine ⟨answer, s', requestId, hrun, hcarries.header, fun hgiven => ?_, fun hnone => ?_, hcarries.body⟩
  · rw [Application.requestId_run_of_given rfl hgiven] at hid
    exact (Except.ok.inj (Prod.mk.inj hid).1).symm
  · obtain ⟨id, s₂, htaken⟩ := hsupplies.ids s
    have htake : run h takeId s = (.ok id, s₂) := (run_call .takeId s).trans htaken
    rw [Application.requestId_run_of_none hnone htake] at hid
    exact ⟨id, s₂, htaken, (Except.ok.inj (Prod.mk.inj hid).1).symm⟩

/-- A route that always fails in a way that no one foresaw. -/
def brokenRoute : Route := ⟨"GET", Pattern.ofPath "/broken", fun _ _ => .failed (.unexpected "broken")⟩

/-- A request to the broken route that comes without an identifier. -/
def brokenRequest : Request := ⟨"GET", "/broken", [], [], []⟩

/-- The request gets the first identifier, and the answer carries it though the program is at fault. -/
theorem broken_carries_requestId : ∃ answer w',
    run World.answer (Application.respond ⟨.default, [brokenRoute]⟩ brokenRequest) .empty = (.ok answer, w') ∧
    answer.status = 500 ∧
    (Application.headers answer).all "X-Request-Id" = ["00000000-0000-4000-8000-000000000001"] ∧
    ∀ v, answer.body = .json v → v.IsEnvelope → v.toldId? = some (.text "00000000-0000-4000-8000-000000000001") := by
  have hmore : ∀ route ∈ [brokenRoute], route.RepliesPlainly :=
    List.forall_mem_singleton.2 fun _ _ => .failed _
  obtain ⟨answer, w', requestId, hrun, hheader, -, hnew, hbody⟩ :=
    answer_carries_requestId (World.answerWith_supplies Supply.answer_supplies) ⟨.default, [brokenRoute]⟩ hmore
      brokenRequest .empty
  obtain ⟨id, w₁, htaken, rfl⟩ := hnew rfl
  obtain rfl : Supply.countedId 1 = id := Except.ok.inj (Prod.mk.inj htaken).1
  have htext : (Supply.countedId 1).text = "00000000-0000-4000-8000-000000000001" := by decide +kernel
  have hstatus : ((run World.answer (Application.respond ⟨.default, [brokenRoute]⟩ brokenRequest) .empty).1.map
      Answer.status).toOption = some 500 := by decide +kernel
  have hrun : run World.answer (Application.respond ⟨.default, [brokenRoute]⟩ brokenRequest) .empty =
      (.ok answer, w') := hrun
  rw [hrun] at hstatus
  rw [htext] at hheader hbody
  exact ⟨answer, w', hrun, Option.some.inj hstatus, hheader, hbody⟩

end RaceAlbum
