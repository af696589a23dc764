import RaceAlbum.Http.Application
import RaceAlbum.Proofs.World.Takes

/-!
# What requests are answered with

A request whose route gives data is answered with the data in an envelope (`respond_of_wrapped`). One whose route fails in a
way that no one foresaw is answered with a report that says nothing about it (`respond_of_unforeseen`). Both hold for every
handler that gives a request its identifier and a reading of the clock, as a tape does that holds them.
-/

namespace RaceAlbum

open Program

/-! ## What is read -/

/-- An identifier is read from its part of the path. -/
theorem Request.pathId_of_ofText {name text : String} {id : Uuid} (hid : Uuid.ofText text = .ok id) :
    Request.pathId name [(name, text)] = .ok id := by
  simp [Request.pathId, List.lookup_cons_self, Reader.uuid, hid, Checked.under]

/-- What was read is gone on from. -/
theorem Route.reading_ok {α : Type} {c : Checked α} {a : α} (hc : c = .ok a) (f : α → Program Reply) :
    Route.reading c f = f a := by
  rw [hc]
  rfl

/-! ## What is drawn -/

/-- A reading of the clock leaves the rest of a tape, and all rows and objects. -/
theorem readClock_run {w : World Tape} {m n : Nat} (h : w.supply.Holds (m + 1) n) :
    ∃ now w', run taped readClock w = (.ok now, w') ∧ w'.archive = w.archive ∧ w'.storage = w.storage := by
  rw [Nat.add_comm, ← Nat.zero_add n] at h
  obtain ⟨now, w', hrun, -⟩ := Takes.ofReadClock.run h
  obtain ⟨ms, us, hdrew⟩ := readClock_asksSupply.noWrite.run_drew hrun
  exact ⟨now, w', hrun, hdrew.archive, hdrew.storage⟩

/-- The identifier of a request is given with it or drawn. -/
theorem Application.requestId_asksSupply (r : Request) : AsksSupply (Application.requestId r) := by
  unfold Application.requestId
  dsimp only
  split
  · exact takeId_asksSupply.map
  · exact .done _

/-- A request gets an identifier, for which at most one is taken off a tape. -/
theorem Application.requestId_run (r : Request) {w : World Tape} {m n : Nat} (h : w.supply.Holds m (n + 1)) :
    ∃ requestId w' ms us, run taped (Application.requestId r) w = (.ok requestId, w') ∧ w'.supply.Holds m n ∧
      Drew w w' ms us := by
  have htakes : Takes 0 1 (Application.requestId r) := by
    unfold Application.requestId
    dsimp only
    split
    · exact Takes.ofTakeId.map Uuid.text
    · exact .done _
  rw [Nat.add_comm, ← Nat.zero_add m] at h
  obtain ⟨requestId, w', hrun, hleft⟩ := htakes.run h
  obtain ⟨ms, us, hdrew⟩ := (requestId_asksSupply r).noWrite.run_drew hrun
  exact ⟨requestId, w', ms, us, hrun, hleft, hdrew⟩

/-! ## Layers

The outermost layer notes the identifier of a request before the layers inside see it. So none of them looks for another one
(`errorResponse_of_noted`), every route has its context (`replyResponse_of_noted`), and the header that the outermost layer writes says
what a header that is there already says (`responded_requestId`).
-/

namespace Application

variable {σ : Type} {h : Handler σ} {s s₁ s₂ s₃ : σ} {app : Application} {r : Request} {requestId : String} {now : Stamp}

/-- An identifier that is noted is not looked for. -/
theorem notedId_of_noted (requestId : String) (r : Request) : notedId ⟨some requestId⟩ r = pure requestId := rfl

/-- Where the identifier is noted, telling about an error takes no other one. -/
theorem errorResponse_of_noted (app : Application) (r : Request) (requestId : String) (report : ErrorReport) :
    app.errorResponse r ⟨some requestId⟩ report = (do
      let body ← errorBody app.settings.isDevelopment r requestId report
      return { app.response r report.status (.json body) with requestId? := some requestId }) := by
  rw [errorResponse, notedId_of_noted]
  rfl

/-- The response that a reply becomes at a moment. -/
def responded (app : Application) (r : Request) (requestId : String) (now : Moment) : Reply → Response
  | .wrapped status data key => app.response r status (.json (envelope data requestId now (some key)).wire)
  | .bare v => app.response r 200 (.json v.wire)
  | .error report => { app.response r report.status
      (.json (report.body app.settings.isDevelopment requestId (shownPath r.path) now).wire) with
    requestId? := some requestId }
  | .redirect location => { app.response r 307 (.text "") with location := some location }

/-- Where the identifier is noted, the route of a request has its context, and data is handed out as soon as the clock is read. -/
theorem replyResponse_of_noted (app : Application) (r : Request) (requestId : String) (status : Int) (data : Value)
    (key : String) :
    app.replyResponse r ⟨some requestId⟩ (.wrapped status data key) = (do
      let now ← readClock
      return app.responded r requestId now.wall (.wrapped status data key)) := rfl

/-- A header with an identifier that is there before the last layer has the identifier of the request. -/
theorem responded_requestId (app : Application) (r : Request) (requestId : String) (now : Moment) (reply : Reply) :
    ∀ given ∈ (app.responded r requestId now reply).requestId?, given = requestId := by
  cases reply with
  | error report => exact fun given hgiven => (Option.mem_some.1 hgiven).symm
  | _ => nofun

/-- The answer with a body to a request with an identifier, and what a site may know of it. -/
def answer (app : Application) (r : Request) (requestId : String) (status : Int) (body : AnswerBody) : Answer :=
  (app.response r status body).named requestId

/-! ## What is answered -/

/-- A browser asks for a verdict with one method only. -/
theorem verdict?_eq_none (origins : List String) (hmethod : r.method ≠ "OPTIONS") :
    Origin.verdict? origins r = none := by
  unfold Origin.verdict?
  split
  · contradiction
  · rfl

/-- A response that was foreseen is answered with under the identifier of the request. -/
theorem respond_of_foreseen {a : Response} (hid : run h (Application.requestId r) s = (.ok requestId, s₁))
    (hverdict : Origin.verdict? app.settings.origins r = none)
    (hrun : run h (app.foreseenResponse r ⟨some requestId⟩) s₁ = (.ok a, s₂)) :
    run h (app.respond r) s = (.ok (withoutBody r (a.named requestId)), s₂) := by
  unfold respond
  rw [run_bind_of_ok hid, hverdict]
  dsimp only
  rw [run_attempt_bind, hrun]
  rfl

/-- So is the response to a failure that no one foresaw. -/
theorem respond_of_failed {f : Failure} {a : Response} (hid : run h (Application.requestId r) s = (.ok requestId, s₁))
    (hverdict : Origin.verdict? app.settings.origins r = none)
    (hfailed : run h (app.foreseenResponse r ⟨some requestId⟩) s₁ = (.error f, s₂))
    (hrun : run h (app.unforeseenResponse r ⟨some requestId⟩ f) s₂ = (.ok a, s₃)) :
    run h (app.respond r) s = (.ok (withoutBody r (a.named requestId)), s₃) := by
  unfold respond
  rw [run_bind_of_ok hid, hverdict]
  dsimp only
  rw [run_attempt_bind, hfailed]
  exact (run_bind_of_ok hrun).trans rfl

/-- Only one method asks for an answer without its body. -/
theorem withoutBody_of_ne (hhead : r.method ≠ "HEAD") (a : Answer) : withoutBody r a = a := if_neg hhead

/-- Data from a route is answered in an envelope. -/
theorem respond_of_wrapped {status : Int} {data : Value} {key : String}
    (hid : run h (Application.requestId r) s = (.ok requestId, s₁)) (hoptions : r.method ≠ "OPTIONS")
    (hhead : r.method ≠ "HEAD") (hroute : run h (app.route r) s₁ = (.ok (.wrapped status data key), s₂))
    (hclock : run h readClock s₂ = (.ok now, s₃)) :
    run h (app.respond r) s =
      (.ok (app.answer r requestId status (.json (envelope data requestId now.wall (some key)).wire)), s₃) := by
  have hforeseen : run h (app.foreseenResponse r ⟨some requestId⟩) s₁ =
      (.ok (app.responded r requestId now.wall (.wrapped status data key)), s₃) := by
    unfold foreseenResponse
    rw [run_attempt_bind, hroute]
    dsimp only
    rw [replyResponse_of_noted, run_bind_of_ok hclock]
    rfl
  rw [respond_of_foreseen hid (verdict?_eq_none _ hoptions) hforeseen, withoutBody_of_ne hhead]
  rfl

/-- The report of a failure that no one foresaw can always be written. -/
theorem ofUnforeseen_isFinite (words : String) (development : Bool) (path : String) (m : Moment) :
    ((ErrorReport.ofUnforeseen words).body development requestId path m).isFinite = true := by
  cases development <;> rfl

/-- A failure of a route that no one foresaw is no response yet. -/
theorem foreseenResponse_of_unforeseen {f : Failure} {notes : RequestNotes}
    (hroute : run h (app.route r) s = (.error f, s₁)) (hunforeseen : reportOf? f = none) :
    run h (app.foreseenResponse r notes) s = (.error f, s₁) := by
  unfold foreseenResponse
  rw [run_attempt_bind, hroute]
  simp only [hunforeseen]
  rfl

/-- A failure that no one foresaw is answered with a report of its own, whose status tells that the program is at fault. -/
theorem respond_of_unforeseen {f : Failure} (hid : run h (Application.requestId r) s = (.ok requestId, s₁))
    (hoptions : r.method ≠ "OPTIONS") (hhead : r.method ≠ "HEAD") (hroute : run h (app.route r) s₁ = (.error f, s₂))
    (hunforeseen : reportOf? f = none) (hclock : run h readClock s₂ = (.ok now, s₃)) :
    run h (app.respond r) s = (.ok { app.answer r requestId 500
      (.json ((ErrorReport.ofUnforeseen f.words).body app.settings.isDevelopment requestId
        (shownPath r.path) now.wall).wire) with allowedSite := none, exposed := none }, s₃) := by
  have hbody : run h (errorBody app.settings.isDevelopment r requestId (.ofUnforeseen f.words)) s₂ =
      (.ok ((ErrorReport.ofUnforeseen f.words).body app.settings.isDevelopment requestId
        (shownPath r.path) now.wall).wire, s₃) := by
    unfold errorBody
    rw [run_bind_of_ok hclock]
    simp only [ofUnforeseen_isFinite, if_true]
    rfl
  have hexcused : run h (app.unforeseenResponse r ⟨some requestId⟩ f) s₂ =
      (.ok { app.responded r requestId now.wall (.error (.ofUnforeseen f.words)) with
        allowedSite := none, exposed := none }, s₃) :=
    (run_bind_of_ok (run_bind_of_ok hbody)).trans rfl
  rw [respond_of_failed hid (verdict?_eq_none _ hoptions) (foreseenResponse_of_unforeseen hroute hunforeseen) hexcused,
    withoutBody_of_ne hhead]
  rfl

end Application

end RaceAlbum
