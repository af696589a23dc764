import RaceAlbum.Proofs.Http.Envelopes
import RaceAlbum.Proofs.Http.Listing

/-!
# What errors disclose

Outside development an answer tells about an error no more than its status, its code, its message and the fields that it is
about. The details of a report and the stack of calls are left out, so that two failures whose reports differ in the details
alone cannot be told apart by their answers (`errors_disclose_no_details`). Such are any two failures that no one foresaw, and
any two of one service that the program relies on.
-/

namespace RaceAlbum

open Program

/-! ## What is left out -/

/-- A body that tells the details of an error or the stack of calls. -/
def Value.TellsDetails (v : Value) : Prop :=
  ∃ e, v.member? "error" = some e ∧ ((e.member? "details").isSome = true ∨ (e.member? "stack").isSome = true)

/-- Outside development the details of a report make no difference to what is told. -/
theorem ErrorReport.body_of_details (report : ErrorReport) (details : Value) (requestId path : String) (now : Moment) :
    ({ report with details } : ErrorReport).body false requestId path now = report.body false requestId path now := rfl

/-- The members of an error that are told outside development. -/
theorem ErrorReport.body_members (report : ErrorReport) (requestId path : String) (now : Moment) :
    ∃ told : Fields, (report.body false requestId path now).member? "error" = some (.object told) ∧
      ∀ f ∈ told, f.1 ∈ ["code", "message", "shouldThrow", "fields"] := by
  refine ⟨_, rfl, fun f hf => ?_⟩
  have hf := (List.mem_filter.1 hf).1
  simp only [Bool.false_eq_true, if_false, List.append_nil] at hf
  exact List.mem_map_of_mem (f := Prod.fst) hf

/-- Outside development neither details nor a stack are told. -/
theorem ErrorReport.body_tells_no_details (report : ErrorReport) (requestId path : String) (now : Moment) :
    ¬(report.body false requestId path now).wire.TellsDetails := by
  rintro ⟨e, he, htold⟩
  obtain ⟨told, herror, hnames⟩ := report.body_members requestId path now
  rw [Value.member?_wire, herror] at he
  obtain rfl := Option.some.inj he
  have hnone (name : String) (hname : name ∉ ["code", "message", "shouldThrow", "fields"]) :
      (Value.member? name (.object told)) = none :=
    List.lookup_eq_none_iff.2 fun f hf => bne_iff_ne.2 fun heq => hname (heq ▸ hnames f hf)
  simp [Value.member?_wire, hnone "details" (by decide), hnone "stack" (by decide)] at htold

/-! ## Failures that look alike -/

/-- The report by which a failure is answered. -/
def Failure.report (f : Failure) : ErrorReport := (Application.reportOf? f).getD (.ofUnforeseen f.words)

/-- Failures that no answer may tell apart: two that no one foresaw, or two of one service, whatever their causes are. -/
inductive Failure.Alike : Failure → Failure → Prop
  | unforeseen {f g : Failure} : Application.reportOf? f = none → Application.reportOf? g = none → Alike f g
  | ofService (service : String) (cause cause' : Option String) :
      Alike (.refused (.serviceFailed service cause)) (.refused (.serviceFailed service cause'))

namespace Failure.Alike

variable {f g : Failure}

/-- The message of a failed service names the service alone. -/
theorem message_serviceFailed (service : String) (cause cause' : Option String) :
    (Refusal.serviceFailed service cause).message = (Refusal.serviceFailed service cause').message := by
  simp [Refusal.message, Refusal.key, Refusal.context, Message.resolve, Message.catalogue, List.lookup_cons, Template.fill?,
    Template.fillPart?, Fields.find?]

/-- The reports of failures that look alike differ in their details alone. -/
theorem report_eq (h : f.Alike g) : ∃ details, g.report = { f.report with details } := by
  cases h with
  | unforeseen hf hg => exact ⟨.text g.words, by simp [Failure.report, hf, hg, ErrorReport.ofUnforeseen]⟩
  | ofService service cause cause' =>
    refine ⟨.ofOption .object (Refusal.serviceFailed service cause').context, ?_⟩
    simp [Failure.report, Application.reportOf?, ErrorReport.ofRefusal, message_serviceFailed service cause cause',
      Refusal.status, Refusal.code, Refusal.shouldThrow, Refusal.fields]

/-- One of two failures that look alike is foreseen if the other one is. -/
theorem reportOf?_isNone (h : f.Alike g) :
    (Application.reportOf? f).isNone = (Application.reportOf? g).isNone := by
  cases h with
  | unforeseen hf hg => rw [hf, hg]
  | ofService service cause cause' => rfl

end Failure.Alike

/-! ## Runs that fail -/

namespace Application

variable {σ : Type} {h : Handler σ} {s s' : σ} {app : Application} {r : Request} {requestId : String} {now : Stamp}

/-- The route of a request fails, the request having an identifier and the clock showing a moment afterwards. -/
def FailsWith (app : Application) (r : Request) (requestId : String) (now : Stamp) (f : Failure) (h : Handler σ) (s : σ) :
    Prop :=
  ∃ s₁ s₂ s₃, run h (Application.requestId r) s = (.ok requestId, s₁) ∧ run h (app.route r) s₁ = (.error f, s₂) ∧
    run h readClock s₂ = (.ok now, s₃)

/-- The answer to a request whose route fails. -/
def failureAnswer (app : Application) (r : Request) (requestId : String) (now : Stamp) (f : Failure) : Answer :=
  match Origin.verdict? app.settings.origins r with
  | some v => (verdictResponse v).named requestId
  | none =>
    let told := app.replied r requestId now.wall (.error f.report)
    withoutBody r (if (reportOf? f).isNone then { told with allowedSite := none, exposed := none } else told)

/-- Outside development a request whose route fails has its answer. -/
theorem FailsWith.run_respond {f : Failure} (hquiet : app.settings.isDevelopment = false)
    (hfails : app.FailsWith r requestId now f h s) :
    (run h (app.respond r) s).1 = .ok (app.failureAnswer r requestId now f) := by
  obtain ⟨s₁, s₂, s₃, hid, hroute, hclock⟩ := hfails
  have hdetails (report : ErrorReport) : app.settings.isDevelopment = true → report.details.isFinite = true := by
    rw [hquiet]
    nofun
  unfold failureAnswer
  cases hverdict : Origin.verdict? app.settings.origins r with
  | some v =>
    unfold respond
    rw [run_bind_of_ok hid, hverdict]
    rfl
  | none =>
    cases hreport : reportOf? f with
    | none =>
      have hapology : (app.excuse r requestId now.wall f).named requestId =
          { app.replied r requestId now.wall (.error f.report) with allowedSite := none, exposed := none } := by
        rw [Failure.report, hreport]
        rfl
      rw [respond_of_failed hid hverdict (foreseenResponse_of_unforeseen hroute hreport)
        (unforeseenResponse_run f hclock), hapology]
      rfl
    | some report =>
      have htold : f.report = report := by rw [Failure.report, hreport, Option.getD_some]
      rw [respond_of_foreseen hid hverdict (foreseenResponse_of_report hroute hreport hclock (hdetails report)), htold]
      rfl

/-- Outside development failures that look alike have one answer. -/
theorem failureAnswer_of_alike {f g : Failure} (hquiet : app.settings.isDevelopment = false) (halike : f.Alike g)
    (r : Request) (requestId : String) (now : Stamp) :
    app.failureAnswer r requestId now f = app.failureAnswer r requestId now g := by
  obtain ⟨details, hreport⟩ := halike.report_eq
  have htold : app.replied r requestId now.wall (.error f.report) = app.replied r requestId now.wall (.error g.report) := by
    rw [hreport]
    simp only [replied, responded, hquiet, ErrorReport.body_of_details]
  unfold failureAnswer
  rw [halike.reportOf?_isNone, htold]

/-- Outside development no answer tells the details of an error. -/
theorem Gives.tells_no_details {a : Answer} (hquiet : app.settings.isDevelopment = false)
    (h : app.Gives r requestId EndsPlainly a) : ∀ v, a.body = .json v → v.IsEnvelope → ¬v.TellsDetails := by
  intro v hv henvelope
  cases h.encloses hv henvelope with
  | data data now key =>
    rintro ⟨e, he, -⟩
    rw [Value.member?_wire] at he
    cases he
  | report report now =>
    rw [hquiet]
    exact report.body_tells_no_details _ _ _

/-- What is told of an error where the settings are not known, or do not say that the program is being developed. -/
theorem errorBody_tells_no_details {settings? : Option Settings} (hquiet : tellsAll settings? = false)
    {report : ErrorReport} {v : Value}
    (hrun : run h (errorBody (tellsAll settings?) r requestId report) s = (.ok v, s')) : ¬v.TellsDetails := by
  rw [hquiet] at hrun
  obtain ⟨now, s₁, -, hwritten⟩ := run_bind_ok hrun
  dsimp only at hwritten
  split at hwritten
  · cases (Prod.mk.inj hwritten).1
    exact report.body_tells_no_details _ _ _
  · cases (Prod.mk.inj hwritten).1

end Application

/-- Errors disclose nothing outside development, that is, where the settings are not known or do not say that the program is
being developed. No body that tells about an error tells its details or the stack of calls. And of two failures that look
alike, two runs of one request tell the same, whoever answers what the program asks: their answers are the same if they have
one identifier and one reading of the clock. -/
theorem errors_disclose_no_details {settings? : Option Settings} (hquiet : Application.tellsAll settings? = false) :
    (∀ (σ : Type) (h : Handler σ) (s s' : σ) (r : Request) (requestId : String) (report : ErrorReport) (v : Value),
      run h (Application.errorBody (Application.tellsAll settings?) r requestId report) s = (.ok v, s') →
        ¬v.TellsDetails) ∧
    (∀ (r : Request) (requestId : String) (f g : Failure), f.Alike g →
      f.report.status = g.report.status ∧
      Application.errorBody (Application.tellsAll settings?) r requestId f.report =
        Application.errorBody (Application.tellsAll settings?) r requestId g.report) ∧
    ∀ app : Application, settings? = some app.settings → (∀ route ∈ app.more, route.RepliesPlainly) →
      (∀ (σ : Type) (h : Handler σ) (s s' : σ) (r : Request) (a : Answer), run h (app.respond r) s = (.ok a, s') →
        ∀ v, a.body = .json v → v.IsEnvelope → ¬v.TellsDetails) ∧
      ∀ (σ τ : Type) (h : Handler σ) (h' : Handler τ) (s : σ) (t : τ) (r : Request) (requestId : String) (now : Stamp)
        (f g : Failure), f.Alike g → app.FailsWith r requestId now f h s → app.FailsWith r requestId now g h' t →
        ∃ a, (run h (app.respond r) s).1 = .ok a ∧ (run h' (app.respond r) t).1 = .ok a := by
  refine ⟨?_, ?_, ?_⟩
  · intro σ h s s' r requestId report v hrun
    exact Application.errorBody_tells_no_details hquiet hrun
  · intro r requestId f g halike
    obtain ⟨details, hreport⟩ := halike.report_eq
    rw [hreport, hquiet]
    exact ⟨rfl, rfl⟩
  · rintro app rfl hmore
    have hquiet : app.settings.isDevelopment = false := hquiet
    refine ⟨?_, ?_⟩
    · intro σ h s s' r a hrun
      obtain ⟨requestId, s₁, -, hgives⟩ := Application.respond_ok (Application.route_endsPlainly hmore r h) hrun
      exact hgives.tells_no_details hquiet
    · intro σ τ h h' s t r requestId now f g halike hf hg
      refine ⟨app.failureAnswer r requestId now f, hf.run_respond hquiet, ?_⟩
      rw [Application.failureAnswer_of_alike hquiet halike]
      exact hg.run_respond hquiet

/-- A world whose archive answers no question, and says why. -/
def brokenArchive (words : String) : Handler World := fun p w =>
  if p.addressee = .archive then (.error (.unexpected words), w) else World.answer p w

/-- The program in production. -/
def productive : Application := ⟨{ Settings.default with environment := .production }, []⟩

/-- A request for the events. -/
def eventsRequest : Request := listRequest "/api/v1/events" []

/-- The request fails as the archive says. -/
theorem brokenArchive_fails (words : String) : productive.FailsWith eventsRequest "00000000-0000-4000-8000-000000000001"
    (.ofUtc ⟨.first, .midnight⟩) (.unexpected words) (brokenArchive words) .empty := by
  have hid : run (brokenArchive words) takeId .empty = (.ok (Supply.countedId 1), (World.answer .takeId .empty).2) := rfl
  have htext : (Supply.countedId 1).text = "00000000-0000-4000-8000-000000000001" := by decide +kernel
  have hgiven := Application.requestId_run_of_none (r := eventsRequest) (by decide) hid
  rw [htext] at hgiven
  have hpage : eventsRequest.page productive.settings = .ok ⟨1, 20⟩ := Checked.eq_ok_of_gives (by decide +kernel)
  have hroute : productive.route eventsRequest = Route.listEvents productive.settings eventsRequest [] :=
    Application.route_listEvents (by decide) rfl (by decide)
  refine ⟨_, (World.answer .takeId .empty).2, _, hgiven, ?_, rfl⟩
  rw [hroute, Route.listEvents, Route.reading_ok hpage]
  exact run_bind_of_error (run_call _ _)

/-- Two archives that break down for different reasons leave the same answer, which tells no details. -/
theorem brokenArchives_look_alike : ∃ a,
    (run (brokenArchive "disk is full") (productive.respond eventsRequest) .empty).1 = .ok a ∧
    (run (brokenArchive "connection lost") (productive.respond eventsRequest) .empty).1 = .ok a ∧
    ∀ v, a.body = .json v → v.IsEnvelope → ¬v.TellsDetails := by
  have hquiet : Application.tellsAll (some productive.settings) = false := rfl
  have hmore : ∀ route ∈ productive.more, route.RepliesPlainly := nofun
  obtain ⟨-, -, happ⟩ := errors_disclose_no_details hquiet
  obtain ⟨hbodies, hpairs⟩ := happ productive rfl hmore
  obtain ⟨a, hfull, hlost⟩ := hpairs World World _ _ _ _ _ _ _ _ _ (.unforeseen rfl rfl)
    (brokenArchive_fails "disk is full") (brokenArchive_fails "connection lost")
  exact ⟨a, hfull, hlost, hbodies World _ _ _ _ _ (Prod.ext hfull rfl)⟩

end RaceAlbum
