import RaceAlbum.Proofs.Http.Listing
import RaceAlbum.Proofs.Http.Replies
import RaceAlbum.Proofs.Schema.BrokenOff
import RaceAlbum.Proofs.Service.EventRuns

/-!
# Requests that bring an event

A request that creates or changes an event is answered with the event, or told what is wrong with it, whatever its body is and
whatever rows there are. Only a day that universal time moves out of the calendar breaks this: then the answer is that the
program is at fault (`event_request_answered`).
-/

namespace RaceAlbum

open Program

/-! ## Requests and their replies -/

/-- A request that creates an event, or changes the one that the last step of its path names. -/
inductive Request.BringsEvent (s : Settings) (r : Request) : Option String → Prop
  | created : r.method = "POST" → r.path = s.apiRoot ++ "/events" → BringsEvent s r none
  | changed {text : String} : r.method = "PATCH" → text.toList ≠ [] → '/' ∉ text.toList →
      r.path = s.apiRoot ++ ("/events/" ++ text) → BringsEvent s r (some text)

/-- The body of a request has a day that universal time moves out of the calendar. -/
def Request.LosesDay (r : Request) : Prop :=
  ∃ fields : Fields, r.document = .ok (.value (.object fields)) ∧ fields.LoseDay

/-- What a request that brings an event is replied to: the identifier of the event that was created or changed, what is wrong
with the request, that there is no such event, or that the day is past. -/
inductive EventReply (a : Archive) : Option String → Reply → Prop
  | created (id : Uuid) : EventReply a none (Route.created (Route.idData id))
  | updated {text : String} {id : Uuid} : Uuid.ofText text = .ok id → a.HasActiveEvent id →
      EventReply a (some text) (Route.updated (Route.idData id))
  | malformed (target : Option String) (problems : List Problem) :
      EventReply a target (.error (.ofRefusal (.ofProblems problems)))
  | unreadable (target : Option String) : EventReply a target (.error (.ofStatus 400 (.text Route.bodyUnreadable)))
  | missing {text : String} {id : Uuid} : Uuid.ofText text = .ok id → ¬a.HasActiveEvent id →
      EventReply a (some text) (.error (.ofRefusal (.notFound EventService.entity id.text)))
  | dateInPast (target : Option String) : EventReply a target (.error (.ofRefusal (.ofRule .dateInPast)))

theorem EventReply.isTold {a : Archive} {target : Option String} {reply : Reply} (h : EventReply a target reply) :
    Application.IsTold reply := by
  cases h with
  | created id => exact .data _ _ _
  | updated _ _ => exact .data _ _ _
  | malformed _ problems => exact .report rfl
  | unreadable _ => exact .report rfl
  | missing _ _ => exact .report rfl
  | dateInPast _ => exact .report rfl

/-- The status of such a reply tells that all went well, or that the request is at fault. -/
theorem EventReply.status_mem {a : Archive} {target : Option String} {reply : Reply} (h : EventReply a target reply)
    (app : Application) (r : Request) (requestId : String) (now : Moment) :
    (app.replied r requestId now reply).status ∈ ([201, 200, 400, 404, 422] : List Int) := by
  cases h with
  | created id => exact .head _
  | updated _ _ => exact .tail _ (.head _)
  | malformed _ problems => exact .tail _ (.tail _ (.head _))
  | unreadable _ => exact .tail _ (.tail _ (.head _))
  | missing _ _ => exact .tail _ (.tail _ (.tail _ (.head _)))
  | dateInPast _ => exact .tail _ (.tail _ (.tail _ (.tail _ (.head _))))

/-! ## How the routes end -/

/-- A document that is read as a form breaks off where the members of the form do. -/
theorem Request.breaksOff_bodyOf_iff {α : Type} {f : Form α} {d : Request.Document} :
    (Request.bodyOf f d).BreaksOff ↔ ∃ fields, d = .value (.object fields) ∧ (f.read fields).BreaksOff := by
  cases d with
  | nothing => simp [bodyOf]
  | foreign => simp [bodyOf]
  | value v => cases v <;> simp [bodyOf, Form.reader]

/-- The day of an event decides where the check of a document breaks off. -/
def BreaksOffByDay {α : Type} (check : Request.Document → Checked α) : Prop :=
  ∀ d, (check d).BreaksOff ↔ ∃ fields : Fields, d = .value (.object fields) ∧ fields.LoseDay

theorem newEvent_breaksOffByDay : BreaksOffByDay (Request.bodyOf NewEvent.form) := by
  intro d
  simp [Request.breaksOff_bodyOf_iff, NewEvent.form_breaksOff_iff]

theorem eventPatch_breaksOffByDay (text : String) : BreaksOffByDay fun d =>
    Prod.mk <$> Route.eventId [(Route.eventPart, text)] <*> Request.bodyOf EventPatch.form d := by
  intro d
  have hid : ¬(Route.eventId [(Route.eventPart, text)]).BreaksOff := by
    simpa [Route.eventId, Request.pathId] using Reader.uuid_neverBreaksOff _
  simp [hid, Request.breaksOff_bodyOf_iff, EventPatch.form_breaksOff_iff]

variable {α σ : Type} {supply : Handler σ} {w : World σ} {r : Request} {target : Option String}

/-- A program ends in a way that is foreseen, with a reply to a request that brings an event. -/
def EndsInEventReply (supply : Handler σ) (x : Program Reply) (w : World σ) (target : Option String) : Prop :=
  ∃ result w' reply, run (World.answerWith supply) x w = (result, w') ∧
    Application.foreseen? result = some reply ∧ EventReply w.archive target reply

/-- A body that loses no day is replied to, if what goes on from it is. -/
theorem readingBody_ends {check : Request.Document → Checked α} {go : α → Program Reply} (hcheck : BreaksOffByDay check)
    (hgo : ∀ d a, check d = .ok a → EndsInEventReply supply (go a) w target) (hday : ¬r.LosesDay) :
    EndsInEventReply supply (Route.readingBody r fun d => Route.reading (check d) go) w target := by
  unfold Route.readingBody
  split
  · rename_i d hd
    dsimp only
    cases hc : check d with
    | ok a =>
      rw [Route.reading_ok rfl]
      exact hgo d a hc
    | problems ps => exact ⟨_, w, _, rfl, rfl, .malformed _ ps⟩
    | outOfCalendar =>
      obtain ⟨fields, rfl, hlost⟩ := (hcheck d).1 hc
      exact absurd ⟨fields, hd, hlost⟩ hday
  · exact ⟨_, w, _, rfl, rfl, .malformed _ _⟩
  · exact ⟨_, w, _, rfl, rfl, .unreadable _⟩

/-- A body that loses its day is not gone on from. -/
theorem readingBody_of_losesDay {check : Request.Document → Checked α} (go : α → Program Reply)
    (hcheck : BreaksOffByDay check) (hday : r.LosesDay) :
    (Route.readingBody r fun d => Route.reading (check d) go) = .failed .dateOverflow := by
  obtain ⟨fields, hd, hlost⟩ := hday
  have hc : check (.value (.object fields)) = .outOfCalendar := (hcheck _).2 ⟨fields, rfl, hlost⟩
  unfold Route.readingBody
  rw [hd]
  dsimp only
  rw [Route.reading, hc]
  rfl

/-- The route of new events replies to every body that loses no day. -/
theorem createEvent_replies (hsupply : supply.Supplies) (hw : w.archive.SavesEvents) (hday : ¬r.LosesDay) :
    EndsInEventReply supply (Route.createEvent r []) w none := by
  refine readingBody_ends newEvent_breaksOffByDay (fun d n hn => ?_) hday
  obtain ⟨fields, hread⟩ : ∃ fields, NewEvent.form.read fields = .ok n := by
    cases d with
    | nothing => cases hn
    | foreign => cases hn
    | value v => exact Form.reader_ok (Checked.under_eq_ok_iff.1 hn)
  obtain ⟨result, w', hrun, ⟨id, rfl⟩ | rfl⟩ :=
    createEvent_ends hsupply hw.unblocked (NewEvent.isEventName_of_read hread)
  · exact ⟨_, w', _, (run_bind_of_ok hrun).trans rfl, rfl, .created id⟩
  · exact ⟨_, w', _, run_bind_of_error hrun, rfl, .dateInPast none⟩

/-- The route of changes replies to every body that loses no day. -/
theorem updateEvent_replies (hsupply : supply.Supplies) (hw : w.archive.SavesEvents) (hday : ¬r.LosesDay)
    (text : String) : EndsInEventReply supply (Route.updateEvent r [(Route.eventPart, text)]) w (some text) := by
  refine readingBody_ends (eventPatch_breaksOffByDay text) (fun d c hc => ?_) hday
  obtain ⟨f, patch, hf, hpatch, rfl⟩ := Checked.seq_eq_ok_iff.1 hc
  obtain ⟨id, hid, rfl⟩ := Checked.map_eq_ok_iff.1 hf
  obtain ⟨fields, hread⟩ : ∃ fields, EventPatch.form.read fields = .ok patch := by
    cases d with
    | nothing => cases hpatch
    | foreign => cases hpatch
    | value v => exact Form.reader_ok (Checked.under_eq_ok_iff.1 hpatch)
  have htext : Uuid.ofText text = .ok id := by
    simp only [Route.eventId, Request.pathId, List.lookup_cons_self, Option.getD_some, Checked.under_eq_ok_iff,
      Reader.uuid] at hid
    split at hid
    · cases hid
      assumption
    · cases hid
  obtain ⟨result, w', hrun, ⟨hmissing, rfl⟩ | ⟨hthere, rfl | rfl⟩⟩ :=
    updateEvent_ends hsupply hw (EventPatch.isEventName_of_read hread) id
  · exact ⟨_, w', _, run_bind_of_error hrun, rfl, .missing htext hmissing⟩
  · exact ⟨_, w', _, (run_bind_of_ok hrun).trans rfl, rfl, .updated htext hthere⟩
  · exact ⟨_, w', _, run_bind_of_error hrun, rfl, .dateInPast _⟩

/-! ## Answers -/

theorem Request.BringsEvent.method_ne {s : Settings} (h : r.BringsEvent s target) :
    r.method ≠ "OPTIONS" ∧ r.method ≠ "HEAD" := by
  cases h with
  | created hmethod _ => simp [hmethod]
  | changed hmethod _ _ _ => simp [hmethod]

/-- The route of a request that brings an event replies to it, or fails since the day is lost. -/
theorem Request.BringsEvent.route_ends {app : Application} (h : r.BringsEvent app.settings target)
    (hroot : '{' ∉ app.settings.apiRoot.toList) (hsupply : supply.Supplies) (hw : w.archive.SavesEvents) :
    (¬r.LosesDay → EndsInEventReply supply (app.route r) w target) ∧
      (r.LosesDay → app.route r = .failed .dateOverflow) := by
  cases h with
  | created hmethod hpath =>
    rw [Application.route_createEvent hroot hmethod hpath]
    exact ⟨createEvent_replies hsupply hw, readingBody_of_losesDay _ newEvent_breaksOffByDay⟩
  | changed hmethod hempty hslash hpath =>
    rw [Application.route_updateEvent hroot hempty hslash hmethod hpath]
    exact ⟨fun hday => updateEvent_replies hsupply hw hday _, readingBody_of_losesDay _ (eventPatch_breaksOffByDay _)⟩

/-- Every request that brings an event is answered, whatever its body is. If the body has no day that universal time moves out of
the calendar, the answer is a reply that was foreseen: the event was created or changed, or the request is at fault. If it has
one, the answer is that the program is at fault, and no row and no object is touched. -/
theorem event_request_answered (hsupply : supply.Supplies) (app : Application) {w : World σ}
    (hroot : '{' ∉ app.settings.apiRoot.toList) (hbrings : r.BringsEvent app.settings target)
    (hw : w.archive.SavesEvents) :
    ∃ requestId now answer w', run (World.answerWith supply) (app.respond r) w = (.ok answer, w') ∧
      (¬r.LosesDay → ∃ reply, EventReply w.archive target reply ∧ answer = app.replied r requestId now reply ∧
        answer.status ∈ ([201, 200, 400, 404, 422] : List Int)) ∧
      (r.LosesDay → answer.status = 500 ∧ World.SameStores w w') := by
  have hsupplies := World.answerWith_supplies hsupply
  obtain ⟨hoptions, hhead⟩ := hbrings.method_ne
  obtain ⟨requestId, w₁, hid⟩ := Application.requestId_succeeds hsupplies r w
  have hsame : World.SameStores w w₁ := (Application.requestId_asksSupply r).noWrite.run_sameStores hid
  have hw₁ : w₁.archive.SavesEvents := by
    rw [hsame.1]
    exact hw
  obtain ⟨hreplies, hlost⟩ := hbrings.route_ends hroot hsupply hw₁
  by_cases hday : r.LosesDay
  · obtain ⟨m, w₂, hclock⟩ := hsupplies.run_readClock w₁
    have hroute : run (World.answerWith supply) (app.route r) w₁ = (.error .dateOverflow, w₁) := by
      rw [hlost hday]
      rfl
    exact ⟨requestId, m, _, w₂, Application.respond_of_unforeseen hid hoptions hhead hroute rfl hclock,
      fun hnot => absurd hday hnot,
      fun _ => ⟨rfl, hsame.trans (readClock_asksSupply.noWrite.run_sameStores hclock)⟩⟩
  · obtain ⟨result, w₂, reply, hroute, hforeseen, hreply⟩ := hreplies hday
    obtain ⟨m, w₃, hclock⟩ := hsupplies.run_readClock w₂
    rw [hsame.1] at hreply
    exact ⟨requestId, _, _, w₃,
      Application.respond_of_reply hid hoptions hhead hroute hforeseen hreply.isTold hclock,
      fun _ => ⟨reply, hreply, rfl, hreply.status_mem app r requestId _⟩, fun h => absurd h hday⟩

/-- A request with an event on a day. -/
def eventRequest (method path date : String) : Request where
  method := method
  path := path
  query := []
  headers := [("Content-Type", "application/json")]
  body := ("\x7b\"name\":\"Tour\",\"date\":\"" ++ date ++ "\"\x7d").toList.map fun c => UInt8.ofNat c.toNat

/-- A request to create an event on the last day, which a stamp of universal time gives. -/
def lastDay : Request := eventRequest "POST" "/api/v1/events" "9999-12-31T23:59:59Z"

/-- The day of the request stays in the calendar. -/
theorem lastDay_stays : ¬lastDay.LosesDay := by
  rintro ⟨fields, hd, hlost⟩
  have hchecked : (lastDay.document.map fun d => (Request.bodyOf NewEvent.form d).gives ⟨"Tour", .last, none⟩).toOption =
      some true := by decide +kernel
  rw [hd] at hchecked
  have hread : Request.bodyOf NewEvent.form (.value (.object fields)) = .ok ⟨"Tour", .last, none⟩ :=
    Checked.eq_ok_of_gives (Option.some.inj hchecked)
  have hbroken := (newEvent_breaksOffByDay _).2 ⟨fields, rfl, hlost⟩
  rw [hread] at hbroken
  exact Checked.breaksOff_ok _ hbroken

/-- The event is created, in a world that has none. -/
theorem lastDay_answered :
    ∃ requestId now answer w', run World.answer (Application.respond ⟨.default, []⟩ lastDay) .empty = (.ok answer, w') ∧
      answer.status = 201 ∧ ∃ reply, EventReply World.empty.archive none reply ∧
      answer = Application.replied ⟨.default, []⟩ lastDay requestId now reply := by
  obtain ⟨requestId, now, answer, w', hrun, hreply, -⟩ := event_request_answered Supply.answer_supplies ⟨.default, []⟩
    (r := lastDay) (w := .empty) (by decide) (.created rfl (by decide)) ⟨rfl, nofun⟩
  obtain ⟨reply, hreply, hanswer, -⟩ := hreply lastDay_stays
  have hstatus : ((run World.answer (Application.respond ⟨.default, []⟩ lastDay) .empty).1.map
      Answer.status).toOption = some 201 := by decide +kernel
  have hrun : run World.answer (Application.respond ⟨.default, []⟩ lastDay) .empty = (.ok answer, w') := hrun
  rw [hrun] at hstatus
  exact ⟨requestId, now, answer, w', hrun, Option.some.inj hstatus, reply, hreply, hanswer⟩

/-- The status of the answer to a request with an event on a day, while there are no rows. -/
def eventStatus (method path date : String) : Option Int := statusWhenEmpty (eventRequest method path date)

/-- Days at both ends of the calendar, with an offset that moves them out of it: the program is at fault, whether an event is
created or changed. -/
theorem edge_days_fail :
    (eventRequest "POST" "/api/v1/events" "0001-01-01T00:00:00+01:00").BringsEvent .default none ∧
    eventStatus "POST" "/api/v1/events" "0001-01-01T00:00:00+01:00" = some 500 ∧
    eventStatus "POST" "/api/v1/events" "9999-12-31T23:59:59-01:00" = some 500 ∧
    (eventRequest "PATCH" "/api/v1/events/1" "0001-01-01T00:00:00+01:00").BringsEvent .default (some "1") ∧
    eventStatus "PATCH" "/api/v1/events/1" "0001-01-01T00:00:00+01:00" = some 500 :=
  ⟨.created rfl (by decide), by decide +kernel, by decide +kernel, .changed rfl (by decide) (by decide) (by decide),
    by decide +kernel⟩

end RaceAlbum
