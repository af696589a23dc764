import RaceAlbum.Proofs.Http.Replies
import RaceAlbum.Proofs.Program.Results

/-!
# Envelopes and plain replies

What a body tells about its request, or about an error, it tells in an envelope. The routes of the program reply in envelopes,
but for the one by which one learns that the program is there, whose reply is none (`Application.route_isPlain`). So whatever
is an envelope was made from data or from a report (`Gives.encloses`).
-/

namespace RaceAlbum

open Program

/-! ## Envelopes -/

namespace Value

/-- The member of a name, if the value is an object that has it. -/
def member? (name : String) : Value → Option Value
  | object fields => Fields.find? fields name
  | _ => none

/-- The member of what an answer carries is what an answer carries of the member. -/
theorem member?_wire (v : Value) (name : String) : v.wire.member? name = (v.member? name).map wire := by
  cases v with
  | object fields => exact find?_wireFields fields name
  | float x =>
    by_cases hx : x.isFinite = true <;> simp [wire, hx, member?]
  | _ => simp [wire, member?]

/-- An envelope: an object with something about the answer, and with what was asked for or what went wrong. -/
def IsEnvelope (v : Value) : Prop :=
  (v.member? "meta").isSome = true ∧ ((v.member? "data").isSome = true ∨ (v.member? "error").isSome = true)

end Value

/-! ## Replies that are no envelopes -/

/-- A bare reply is no envelope. -/
def Reply.IsPlain (reply : Reply) : Prop := ∀ v, reply = .bare v → ¬v.wire.IsEnvelope

namespace Reply

/-- Data is handed out in an envelope, so the reply is no bare one. -/
theorem isPlain_wrapped (status : Int) (data : Value) (key : String) : IsPlain (.wrapped status data key) := nofun

/-- So is a report. -/
theorem isPlain_error (report : ErrorReport) : IsPlain (.error report) := nofun

/-- An address has no value in it. -/
theorem isPlain_redirect (location : String) : IsPlain (.redirect location) := nofun

end Reply

namespace Route

/-- A route whose bare replies are no envelopes. -/
def RepliesPlainly (route : Route) : Prop := ∀ r parts, Results Reply.IsPlain (route.serve r parts)

variable {α : Type} {r : Request}

/-- What goes on from something that was read decides how it is replied to. -/
theorem reading_isPlain {c : Checked α} {f : α → Program Reply} (hf : ∀ a, Results Reply.IsPlain (f a)) :
    Results Reply.IsPlain (reading c f) :=
  .andThen _ hf

/-- So does what goes on from a body that was read; one that cannot be read is a report. -/
theorem readingBody_isPlain {f : Request.Document → Program Reply} (hf : ∀ d, Results Reply.IsPlain (f d)) :
    Results Reply.IsPlain (readingBody r f) := by
  unfold readingBody
  split
  · exact hf _
  · exact .failed _
  · exact .done (Reply.isPlain_error _)

/-- The same holds of a form. -/
theorem readingForm_isPlain {f : List FormPart → Program Reply} (hf : ∀ parts, Results Reply.IsPlain (f parts)) :
    Results Reply.IsPlain (readingForm r f) := by
  unfold readingForm
  split
  · exact hf _
  · exact .done (Reply.isPlain_error _)

/-- Data that a service gives is replied in an envelope. -/
theorem wrapping_isPlain (x : Program α) (status : Int) (data : α → Value) (key : String) :
    Results Reply.IsPlain (x >>= fun a => pure (.wrapped status (data a) key)) :=
  .andThen x fun _ => .done (Reply.isPlain_wrapped _ _ _)

/-- The routes of the programming interface reply in envelopes only. -/
theorem api_repliesPlainly (s : Settings) : ∀ route ∈ api s, route.RepliesPlainly := by
  simp only [api, List.forall_mem_cons]
  refine ⟨?_, ?_, ?_, ?_, ?_, ?_, ?_, ?_, ?_, ?_, ?_, List.forall_mem_nil _⟩
  · exact fun r parts => reading_isPlain fun _ => wrapping_isPlain _ _ _ _
  · exact fun r parts => readingBody_isPlain fun d => reading_isPlain fun _ => wrapping_isPlain _ _ _ _
  · exact fun r parts => reading_isPlain fun _ => wrapping_isPlain _ _ _ _
  · exact fun r parts => readingBody_isPlain fun d => reading_isPlain fun _ => wrapping_isPlain _ _ _ _
  · exact fun r parts => reading_isPlain fun _ => wrapping_isPlain _ _ _ _
  · exact fun r parts => reading_isPlain fun _ => wrapping_isPlain _ _ _ _
  · exact fun r parts => readingForm_isPlain fun form => reading_isPlain fun _ =>
      .andThen _ fun _ => wrapping_isPlain _ _ _ _
  · exact fun r parts => reading_isPlain fun _ => wrapping_isPlain _ _ _ _
  · exact fun r parts => reading_isPlain fun _ => wrapping_isPlain _ _ _ _
  · exact fun r parts => readingBody_isPlain fun d => reading_isPlain fun _ => wrapping_isPlain _ _ _ _
  · exact fun r parts => reading_isPlain fun _ => wrapping_isPlain _ _ _ _

/-- The route that tells that the program is there replies with a status alone. -/
theorem healthRoute_repliesPlainly : healthRoute.RepliesPlainly := by
  intro r parts
  refine .done fun v hv => ?_
  cases hv
  simp [Value.IsEnvelope, Value.wire, Value.wireFields, Value.member?, Fields.find?, List.lookup_cons]

/-- A route that is found is one of the routes. -/
theorem mem_of_find {routes : List Route} {method path : String} {found : Route} {parts : Request.Parts}
    (h : find routes method path = .route found parts) : found ∈ routes := by
  unfold find at h
  dsimp only at h
  split at h
  · rename_i q qparts hfound
    obtain ⟨rfl, rfl⟩ := Found.route.inj h
    obtain ⟨q', hq', hfits⟩ := List.mem_filterMap.1 (List.mem_of_find?_eq_some hfound)
    obtain ⟨parts', -, hpair⟩ := Option.map_eq_some_iff.1 hfits
    obtain ⟨rfl, -⟩ := Prod.mk.inj hpair
    exact hq'
  · split at h <;> cases h

end Route

/-- The program replies in envelopes, or plainly, if its further routes do. -/
theorem Application.route_isPlain {app : Application} (hmore : ∀ route ∈ app.more, route.RepliesPlainly) (r : Request) :
    Results Reply.IsPlain (app.route r) := by
  unfold route
  split
  · rename_i found parts hfound
    have hmem : found ∈ app.routes := Route.mem_of_find hfound
    simp only [routes, List.mem_append, List.mem_singleton] at hmem
    rcases hmem with (hapi | rfl) | hother
    · exact Route.api_repliesPlainly app.settings found hapi r parts
    · exact Route.healthRoute_repliesPlainly r parts
    · exact hmore found hother r parts
  · exact .done (Reply.isPlain_error _)
  · split
    · exact .done (Reply.isPlain_redirect _)
    · exact .done (Reply.isPlain_error _)

/-- A route that ends in a plain way: what it is replied with, if that is foreseen, is no bare envelope. -/
def Application.EndsPlainly (result : Except Failure Reply) : Prop := ∀ reply, foreseen? result = some reply → reply.IsPlain

/-- So every request ends plainly at its route. -/
theorem Application.route_endsPlainly {σ : Type} {app : Application} (hmore : ∀ route ∈ app.more, route.RepliesPlainly)
    (r : Request) (h : Handler σ) (s : σ) : EndsPlainly (run h (app.route r) s).1 := by
  rcases hroute : run h (app.route r) s with ⟨f | reply, s'⟩
  · intro reply hreply
    obtain ⟨report, -, rfl⟩ := Option.map_eq_some_iff.1 hreply
    exact Reply.isPlain_error report
  · intro reply' hreply
    obtain rfl := Option.some.inj hreply
    exact (route_isPlain hmore r).run_ok hroute

/-! ## What an envelope can be -/

namespace Application

variable {app : Application} {r : Request} {requestId : String} {a : Answer} {v : Value}

/-- The envelopes that a request can be answered with: around data, or around a report, at a moment. -/
inductive Encloses (app : Application) (r : Request) (requestId : String) : Value → Prop
  | data (data : Value) (now : Moment) (key : String) :
      Encloses app r requestId (envelope data requestId now (some key)).wire
  | report (report : ErrorReport) (now : Moment) :
      Encloses app r requestId (report.body app.settings.isDevelopment requestId (shownPath r.path) now).wire

/-- A plain reply that becomes an envelope was data or a report. -/
theorem replied_encloses {reply : Reply} {now : Moment} (hplain : reply.IsPlain)
    (hv : (app.replied r requestId now reply).body = .json v) (henvelope : v.IsEnvelope) : app.Encloses r requestId v := by
  cases reply with
  | wrapped status data key =>
    obtain rfl := AnswerBody.json.inj hv
    exact .data data now key
  | bare v' =>
    obtain rfl := AnswerBody.json.inj hv
    exact absurd henvelope (hplain v' rfl)
  | error report =>
    obtain rfl := AnswerBody.json.inj hv
    exact .report report now
  | redirect location => cases hv

/-- An answer without its body tells no more than the answer. -/
theorem withoutBody_body (hv : (withoutBody r a).body = .json v) : a.body = .json v := by
  unfold withoutBody at hv
  split at hv
  · cases hv
  · exact hv

/-- Every envelope that a request is answered with is around data or around a report. -/
theorem Gives.encloses (h : app.Gives r requestId EndsPlainly a) (hv : a.body = .json v) (henvelope : v.IsEnvelope) :
    app.Encloses r requestId v := by
  cases h with
  | verdict verdict => cases hv
  | reply now hplain hreply => exact replied_encloses (hplain _ hreply) (withoutBody_body hv) henvelope
  | apology now f =>
    have hbody : (app.apology r requestId now f).body = .json v := withoutBody_body hv
    exact replied_encloses (Reply.isPlain_error (.ofUnforeseen f.words)) hbody henvelope

end Application

end RaceAlbum
