import RaceAlbum.Proofs.Http.Answers
import RaceAlbum.Proofs.Json.Values
import RaceAlbum.Proofs.World.Supplies

/-!
# How replies become answers

`replied` is the answer that a reply becomes at a moment, and `apology` the one to a failure that no one foresaw. Every answer
of the program is one of these two, or the verdict that a browser asked for (`respond_ok`); and where the clock can be read and
an identifier can be taken, every request is answered (`respond_succeeds`).
-/

namespace RaceAlbum

open Program

/-! ## What can be written -/

/-- Messages about fields are texts. -/
theorem FieldMessages.value_isFinite (fields : FieldMessages) : fields.value.isFinite = true := by
  refine Value.fieldsAreFinite_iff.2 fun f hf => ?_
  obtain ⟨⟨name, messages⟩, -, rfl⟩ := List.mem_map.1 hf
  refine Value.listIsFinite_iff.2 fun v hv => ?_
  obtain ⟨message, -, rfl⟩ := List.mem_map.1 hv
  rfl

/-- A report can be written if its details are not told, or if all numbers in them are finite. -/
theorem ErrorReport.body_isFinite {report : ErrorReport} {development : Bool}
    (h : development = true → report.details.isFinite = true) (requestId path : String) (now : Moment) :
    (report.body development requestId path now).isFinite = true := by
  have hfields : (Value.ofOption FieldMessages.value report.fields).isFinite = true := by
    cases report.fields with
    | none => rfl
    | some fields => exact FieldMessages.value_isFinite fields
  have hplain : ∀ f ∈ ([("code", .text report.code), ("message", .text report.message),
      ("shouldThrow", .bool report.shouldThrow), ("fields", .ofOption FieldMessages.value report.fields)] : Fields),
      f.2.isFinite = true := by
    simp [Value.isFinite, hfields]
  have htold : ∀ f ∈ (if development then [("details", report.details), ("stack", .text stackMark)] else [] : Fields),
      f.2.isFinite = true := by
    cases development with
    | true => simp [Value.isFinite, h]
    | false => simp
  have herror : Value.fieldsAreFinite (dropNulls ([("code", .text report.code), ("message", .text report.message),
      ("shouldThrow", .bool report.shouldThrow), ("fields", .ofOption FieldMessages.value report.fields)] ++
      if development then [("details", report.details), ("stack", .text stackMark)] else [])) = true :=
    Value.fieldsAreFinite_iff.2 fun f hf => List.forall_mem_append.2 ⟨hplain, htold⟩ f (List.mem_filter.1 hf).1
  simp only [body, Value.isFinite, Value.fieldsAreFinite, Bool.and_true]
  exact herror

namespace Application

variable {σ : Type} {h : Handler σ} {s s' : σ} {app : Application} {r : Request} {requestId : String}

/-! ## Replies at a moment -/

/-- The answer that a reply becomes at a moment. -/
def replied (app : Application) (r : Request) (requestId : String) (now : Moment) (reply : Reply) : Answer :=
  (app.responded r requestId now reply).named requestId

/-- The response to a failure that no one foresaw, at a moment. -/
def excuse (app : Application) (r : Request) (requestId : String) (now : Moment) (f : Failure) : Response :=
  { app.responded r requestId now (.error (.ofUnforeseen f.words)) with allowedSite := none, exposed := none }

/-- The answer to a failure that no one foresaw, at a moment. -/
def apology (app : Application) (r : Request) (requestId : String) (now : Moment) (f : Failure) : Answer :=
  (app.excuse r requestId now f).named requestId

/-- The response that tells about an error tells its report. -/
theorem errorResponse_ok {report : ErrorReport} {a : Response}
    (hrun : run h (app.errorResponse r ⟨some requestId⟩ report) s = (.ok a, s')) :
    ∃ now, a = app.responded r requestId now (.error report) := by
  rw [errorResponse_of_noted] at hrun
  obtain ⟨body, s₁, hbody, ha⟩ := run_bind_ok hrun
  obtain ⟨now, s₂, -, hwritten⟩ := run_bind_ok hbody
  obtain ⟨ha, -⟩ := Prod.mk.inj ha
  cases ha
  dsimp only at hwritten
  split at hwritten
  · obtain ⟨hwritten, -⟩ := Prod.mk.inj hwritten
    cases hwritten
    exact ⟨now.wall, rfl⟩
  · cases (Prod.mk.inj hwritten).1

/-- A reply that is handed out is handed out at some moment. -/
theorem replyResponse_ok {reply : Reply} {a : Response}
    (hrun : run h (app.replyResponse r ⟨some requestId⟩ reply) s = (.ok a, s')) :
    ∃ now, a = app.responded r requestId now reply := by
  cases reply with
  | wrapped status data key =>
    rw [replyResponse_of_noted] at hrun
    obtain ⟨now, s₁, -, ha⟩ := run_bind_ok hrun
    obtain ⟨ha, -⟩ := Prod.mk.inj ha
    cases ha
    exact ⟨now.wall, rfl⟩
  | bare v =>
    obtain ⟨ha, -⟩ := Prod.mk.inj hrun
    cases ha
    exact ⟨⟨.first, .midnight⟩, rfl⟩
  | error report => exact errorResponse_ok hrun
  | redirect location =>
    obtain ⟨ha, -⟩ := Prod.mk.inj hrun
    cases ha
    exact ⟨⟨.first, .midnight⟩, rfl⟩

/-! ## What is drawn for an answer -/

/-- A request whose header gives an identifier has it, and nothing is drawn. -/
theorem requestId_run_of_given {given : String} (hgiven : (r.headers.find? requestIdHeader).getD "" = given)
    (hempty : given ≠ "") (s : σ) : run h (Application.requestId r) s = (.ok given, s) := by
  simp only [Application.requestId, hgiven, if_neg hempty]
  rfl

/-- A request whose header gives none, or an empty one, has the next identifier. -/
theorem requestId_run_of_none {id : Uuid} (hnone : (r.headers.find? requestIdHeader).getD "" = "")
    (hid : run h takeId s = (.ok id, s')) : run h (Application.requestId r) s = (.ok id.text, s') := by
  simp only [Application.requestId, hnone, if_true]
  exact (run_bind_of_ok hid).trans rfl

/-- Every request gets an identifier. -/
theorem requestId_succeeds (hsupplies : h.Supplies) (r : Request) (s : σ) :
    ∃ requestId s', run h (Application.requestId r) s = (.ok requestId, s') := by
  by_cases hgiven : (r.headers.find? requestIdHeader).getD "" = ""
  · obtain ⟨id, s', hid⟩ := hsupplies.run_takeId s
    exact ⟨id.text, s', requestId_run_of_none hgiven hid⟩
  · exact ⟨_, s, requestId_run_of_given rfl hgiven s⟩

/-- A report that can be written is told. -/
theorem errorResponse_run {report : ErrorReport} {now : Stamp} (hclock : run h readClock s = (.ok now, s'))
    (hfinite : app.settings.isDevelopment = true → report.details.isFinite = true) :
    run h (app.errorResponse r ⟨some requestId⟩ report) s =
      (.ok (app.responded r requestId now.wall (.error report)), s') := by
  have hbody : run h (errorBody app.settings.isDevelopment r requestId report) s =
      (.ok (report.body app.settings.isDevelopment requestId (shownPath r.path) now.wall).wire, s') := by
    unfold errorBody
    rw [run_bind_of_ok hclock]
    simp only [ErrorReport.body_isFinite hfinite, if_true]
    rfl
  exact (run_bind_of_ok hbody).trans rfl

/-- A failure of a route that is foreseen is answered with its report, if that can be written. -/
theorem foreseenResponse_of_report {f : Failure} {report : ErrorReport} {now : Stamp} {s₁ : σ}
    (hroute : run h (app.route r) s = (.error f, s₁)) (hreport : reportOf? f = some report)
    (hclock : run h readClock s₁ = (.ok now, s'))
    (hfinite : app.settings.isDevelopment = true → report.details.isFinite = true) :
    run h (app.foreseenResponse r ⟨some requestId⟩) s =
      (.ok (app.responded r requestId now.wall (.error report)), s') := by
  unfold foreseenResponse
  rw [run_attempt_bind, hroute]
  simp only [hreport]
  exact errorResponse_run hclock hfinite

/-- A failure that no one foresaw is excused. -/
theorem unforeseenResponse_run {now : Stamp} (f : Failure) (hclock : run h readClock s = (.ok now, s')) :
    run h (app.unforeseenResponse r ⟨some requestId⟩ f) s = (.ok (app.excuse r requestId now.wall f), s') :=
  (run_bind_of_ok (errorResponse_run hclock fun _ => rfl)).trans rfl

/-! ## All answers -/

/-- The reply that a request ends in, if its route ends in a way that is foreseen. -/
def foreseen? : Except Failure Reply → Option Reply
  | .ok reply => some reply
  | .error f => (reportOf? f).map .error

/-- What a request can be answered with where its route ends in a way that is one of `E`. -/
inductive Gives (app : Application) (r : Request) (requestId : String) (E : Except Failure Reply → Prop) : Answer → Prop
  | verdict (v : Origin.Verdict) : Gives app r requestId E ((verdictResponse v).named requestId)
  | reply {result : Except Failure Reply} {reply : Reply} (now : Moment) :
      E result → foreseen? result = some reply → Gives app r requestId E (withoutBody r (app.replied r requestId now reply))
  | apology (now : Moment) (f : Failure) :
      Gives app r requestId E (withoutBody r (app.apology r requestId now f))

/-- A response that was foreseen is made from the reply that the route ended in. -/
theorem foreseenResponse_ok {a : Response} (hrun : run h (app.foreseenResponse r ⟨some requestId⟩) s = (.ok a, s')) :
    ∃ reply now, foreseen? (run h (app.route r) s).1 = some reply ∧ a = app.responded r requestId now reply := by
  unfold foreseenResponse at hrun
  rw [run_attempt_bind] at hrun
  rcases hroute : run h (app.route r) s with ⟨f | reply, s₁⟩
  · rw [hroute] at hrun
    dsimp only at hrun
    cases hreport : reportOf? f with
    | none =>
      rw [hreport] at hrun
      cases (Prod.mk.inj hrun).1
    | some report =>
      rw [hreport] at hrun
      obtain ⟨now, ha⟩ := errorResponse_ok hrun
      exact ⟨.error report, now, by simp [foreseen?, hreport], ha⟩
  · rw [hroute] at hrun
    obtain ⟨now, ha⟩ := replyResponse_ok hrun
    exact ⟨reply, now, rfl, ha⟩

/-- A response to a failure that no one foresaw excuses it at some moment. -/
theorem unforeseenResponse_ok {f : Failure} {a : Response}
    (hrun : run h (app.unforeseenResponse r ⟨some requestId⟩ f) s = (.ok a, s')) :
    ∃ now, a = app.excuse r requestId now f := by
  obtain ⟨b, s₁, hb, ha⟩ := run_bind_ok hrun
  obtain ⟨ha, -⟩ := Prod.mk.inj ha
  cases ha
  obtain ⟨now, rfl⟩ := errorResponse_ok hb
  exact ⟨now, rfl⟩

/-- Every answer is a verdict, the reply that the route ended in, or an apology. -/
theorem respond_ok {E : Except Failure Reply → Prop} {a : Answer} (hE : ∀ s, E (run h (app.route r) s).1)
    (hrun : run h (app.respond r) s = (.ok a, s')) :
    ∃ requestId s₁, run h (Application.requestId r) s = (.ok requestId, s₁) ∧ app.Gives r requestId E a := by
  obtain ⟨requestId, s₁, hid, hrun⟩ := run_bind_ok hrun
  refine ⟨requestId, s₁, hid, ?_⟩
  cases hverdict : Origin.verdict? app.settings.origins r with
  | some v =>
    rw [hverdict] at hrun
    obtain ⟨ha, -⟩ := Prod.mk.inj hrun
    cases ha
    exact .verdict v
  | none =>
    rw [hverdict] at hrun
    dsimp only at hrun
    rw [run_attempt_bind] at hrun
    rcases hforeseen : run h (app.foreseenResponse r ⟨some requestId⟩) s₁ with ⟨f | b, s₂⟩
    · rw [hforeseen] at hrun
      obtain ⟨b, s₃, hb, hrun⟩ := run_bind_ok hrun
      obtain ⟨ha, -⟩ := Prod.mk.inj hrun
      cases ha
      obtain ⟨now, rfl⟩ := unforeseenResponse_ok hb
      exact .apology now f
    · rw [hforeseen] at hrun
      obtain ⟨ha, -⟩ := Prod.mk.inj hrun
      cases ha
      obtain ⟨reply, now, hreply, rfl⟩ := foreseenResponse_ok hforeseen
      exact .reply now (hE s₁) hreply

/-- Where the clock can be read and an identifier can be taken, every request is answered. -/
theorem respond_succeeds (hsupplies : h.Supplies) (app : Application) (r : Request) (s : σ) :
    ∃ a s', run h (app.respond r) s = (.ok a, s') := by
  obtain ⟨requestId, s₁, hid⟩ := requestId_succeeds hsupplies r s
  cases hverdict : Origin.verdict? app.settings.origins r with
  | some v =>
    unfold respond
    rw [run_bind_of_ok hid, hverdict]
    exact ⟨_, _, rfl⟩
  | none =>
    rcases hforeseen : run h (app.foreseenResponse r ⟨some requestId⟩) s₁ with ⟨f | a, s₂⟩
    · obtain ⟨now, s₃, hclock⟩ := hsupplies.run_readClock s₂
      exact ⟨_, s₃, respond_of_failed hid hverdict hforeseen (unforeseenResponse_run f hclock)⟩
    · exact ⟨_, s₂, respond_of_foreseen hid hverdict hforeseen⟩

/-- A reply that is told at a moment and can be written: data, or a report whose numbers are finite. -/
inductive IsTold : Reply → Prop
  | data (status : Int) (data : Value) (key : String) : IsTold (.wrapped status data key)
  | report {report : ErrorReport} : report.details.isFinite = true → IsTold (.error report)

/-- The reply that a route ends in is told. -/
theorem respond_of_reply {result : Except Failure Reply} {reply : Reply} {now : Stamp} {s₁ s₂ : σ}
    (hid : run h (Application.requestId r) s = (.ok requestId, s₁)) (hoptions : r.method ≠ "OPTIONS")
    (hhead : r.method ≠ "HEAD") (hroute : run h (app.route r) s₁ = (result, s₂)) (hreply : foreseen? result = some reply)
    (htold : IsTold reply) (hclock : run h readClock s₂ = (.ok now, s')) :
    run h (app.respond r) s = (.ok (app.replied r requestId now.wall reply), s') := by
  have hforeseen : run h (app.foreseenResponse r ⟨some requestId⟩) s₁ =
      (.ok (app.responded r requestId now.wall reply), s') := by
    cases result with
    | ok reply' =>
      cases hreply
      unfold foreseenResponse
      rw [run_attempt_bind, hroute]
      cases htold with
      | data status data key => exact (run_bind_of_ok hclock).trans rfl
      | report hfinite => exact errorResponse_run hclock fun _ => hfinite
    | error f =>
      obtain ⟨report, hreport, rfl⟩ := Option.map_eq_some_iff.1 hreply
      cases htold with
      | report hfinite => exact foreseenResponse_of_report hroute hreport hclock fun _ => hfinite
  rw [respond_of_foreseen hid (verdict?_eq_none _ hoptions) hforeseen, withoutBody_of_ne hhead]
  rfl

end Application

end RaceAlbum
