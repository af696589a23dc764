import RaceAlbum.Proofs.Http.Answers
import RaceAlbum.Proofs.Http.Routing
import RaceAlbum.Proofs.Service.Accepting
import RaceAlbum.Proofs.Service.Session

/-!
# Requests that classify a photo

A request to classify a photo that is there succeeds whatever body was accepted (`accepted_classification_is_stored`): the
limits that a body has to keep are those of the entities and of the tables, also for what is no number.
-/

namespace RaceAlbum

open Program

/-- A tape from which something was drawn holds no identifiers but those that it held. -/
theorem Tape.IsNewTo.of_reads {t t' : Tape} {a : Archive} {ms : List Moment} {us : List Uuid} (h : t.IsNewTo a)
    (hreads : t.Reads t' ms us) : t'.IsNewTo a := by
  have hsub : t'.ids.Sublist t.ids := by
    rw [hreads.ids]
    exact List.sublist_append_right _ _
  exact ⟨h.nodup.sublist hsub, fun id hid => h.parts id (hsub.subset hid)⟩

/-- What was accepted of a photo is recorded by its route. -/
theorem classifyPhoto_run {r : Request} {w : World Tape} {p : PhotoRow} {text : String} {v : Value}
    {c : PhotoClassification} {m n : Nat} (hid : Uuid.ofText text = .ok p.id) (hbody : r.document = .ok (.value v))
    (haccepted : PhotoClassification.form.reader v = .ok c) (ha : w.archive.Constrained)
    (hblocks : w.archive.blocks = []) (hp : p ∈ w.archive.photos) (hnew : w.supply.IsNewTo w.archive)
    (hholds : w.supply.Holds (Detection.entitiesOf c.cyclists + (1 + m)) (Detection.entitiesOf c.cyclists + n)) :
    ∃ w' t bs, run taped (Route.classifyPhoto r [(Route.photoPart, text)]) w =
        (.ok (Route.updated (Route.idData p.id)), w') ∧
      w'.archive = w.archive.classified (p.classifiedAt t) bs ∧ List.Forall₂ (Bundle.Mirrors p.id) bs c.cyclists ∧
      w'.storage = w.storage ∧ w'.supply.Holds m n := by
  have hc : Detection.Accepted c.cyclists := Form.reader_ok haccepted
  obtain ⟨w', t, bs, hrun, harchive, hmirrors, hstorage, hleft⟩ := classify_run ha hblocks hp hc.parts hnew hholds
  have hread : (Prod.mk <$> Route.photoId [(Route.photoPart, text)] <*>
      Request.bodyOf PhotoClassification.form (.value v)) = .ok (p.id, c) := by
    rw [Route.photoId, Request.pathId_of_ofText hid, Request.bodyOf, haccepted]
    rfl
  refine ⟨w', t, bs, ?_, harchive, hmirrors, hstorage, hleft⟩
  unfold Route.classifyPhoto Route.readingBody
  rw [hbody]
  dsimp only
  rw [Route.reading_ok hread]
  exact (run_bind_of_ok hrun).trans rfl

/-- Every classification that is accepted can be stored. Whatever rows there are and whatever body was accepted, a request to
classify a photo that is there succeeds and has stored all that the body reports, and all confidences and shares in it lie
in their ranges, which nothing does that is no number. The tape leaves open the moments, and which new identifiers are
taken. -/
theorem accepted_classification_is_stored (app : Application) {r : Request} {w : World Tape} {p : PhotoRow}
    {text : String} {v : Value} {c : PhotoClassification} (hroot : '{' ∉ app.settings.apiRoot.toList)
    (hmethod : r.method = "PATCH") (hpath : r.path = app.settings.apiRoot ++ ("/photos/" ++ text ++ "/classify"))
    (hid : Uuid.ofText text = .ok p.id) (hbody : r.document = .ok (.value v))
    (haccepted : PhotoClassification.form.reader v = .ok c) (ha : w.archive.Constrained)
    (hblocks : w.archive.blocks = []) (hp : p ∈ w.archive.photos) (hnew : w.supply.IsNewTo w.archive)
    (hholds : w.supply.Holds (Detection.entitiesOf c.cyclists + 2) (Detection.entitiesOf c.cyclists + 1)) :
    (∀ d ∈ c.cyclists, d.InRange) ∧
    ∃ requestId now w' t bs, run taped (app.respond r) w = (.ok (app.answer r requestId 200
        (.json (envelope (Route.idData p.id) requestId now (some "success.UPDATED")).wire)), w') ∧
      w'.archive = w.archive.classified (p.classifiedAt t) bs ∧ List.Forall₂ (Bundle.Mirrors p.id) bs c.cyclists ∧
      w'.storage = w.storage := by
  refine ⟨Detection.Accepted.inRange (Form.reader_ok haccepted), ?_⟩
  obtain ⟨requestId, w₁, ms, us, hrequestId, hleft, hdrew⟩ := Application.requestId_run r hholds
  rw [← hdrew.archive] at ha hblocks hp hnew
  obtain ⟨w₂, t, bs, hroute, harchive, hmirrors, hstorage, hleft⟩ :=
    classifyPhoto_run (m := 1) (n := 0) hid hbody haccepted ha hblocks hp (hnew.of_reads hdrew.reads) hleft
  obtain ⟨now, w₃, hclock, hrows, hobjects⟩ := readClock_run hleft
  rw [← Application.route_classifyPhoto hroot hid hmethod hpath] at hroute
  refine ⟨requestId, now.wall, w₃, t, bs,
    Application.respond_of_wrapped hrequestId (by simp [hmethod]) (by simp [hmethod]) hroute hclock, ?_, hmirrors, ?_⟩
  · rw [hrows, harchive, hdrew.archive]
  · rw [hobjects, hstorage, hdrew.storage]

/-- A cyclist whose box has a side that is no number, with the greatest confidence and the greatest number. -/
def edgeDetection : Detection where
  box := [("x", .nan)]
  confidence := .ofInt 1
  plate := some ⟨999, none⟩
  colors := []

/-- A request that reports the cyclist on the photo with the third identifier. -/
def edgeRequest : Request where
  method := "PATCH"
  path := "/api/v1/photos/00000000-0000-0000-0000-000000000003/classify"
  query := []
  headers := [("Content-Type", "application/json")]
  body := ("\x7b\"cyclists\":[\x7b\"boundingBox\":\x7b\"x\":NaN\x7d,\"confidenceScore\":1," ++
    "\"plateNumber\":\x7b\"number\":999\x7d\x7d]\x7d").toList.map fun c => UInt8.ofNat c.toNat

/-- The body of the request is accepted as it is meant. -/
theorem edgeRequest_accepted : ∃ v, edgeRequest.document = .ok (.value v) ∧
    PhotoClassification.form.reader v = .ok ⟨[edgeDetection]⟩ := by
  have h : (edgeRequest.document.map fun d =>
      (Request.bodyOf PhotoClassification.form d).gives ⟨[edgeDetection]⟩).toOption = some true := by decide +kernel
  cases hd : edgeRequest.document with
  | error fault =>
    rw [hd] at h
    cases h
  | ok d =>
    rw [hd] at h
    have hbody : Request.bodyOf PhotoClassification.form d = .ok ⟨[edgeDetection]⟩ :=
      Checked.eq_ok_of_gives (Option.some_inj.1 h)
    cases d with
    | nothing => cases hbody
    | foreign => cases hbody
    | value v => exact ⟨v, rfl, Checked.under_eq_ok_iff.1 hbody⟩

/-- The cyclist is stored with its photo, which had none. -/
theorem edgeRequest_is_stored :
    let w := (session taped (smallSession.take 2) ⟨smallTape, .empty, smallStorage⟩).2
    w.archive.cyclists = [] ∧ edgeDetection.InRange ∧ ∃ answer w',
      run taped (Application.respond ⟨.default, []⟩ edgeRequest) w = (.ok answer, w') ∧ answer.status = 200 ∧
      w'.archive.cyclists.map (fun c => (c.photoId, c.box, c.confidence)) = [(.ofNat 3, [("x", .nan)], .ofInt 1)] := by
  intro w
  obtain ⟨v, hbody, haccepted⟩ := edgeRequest_accepted
  obtain ⟨p, hp, hid, hthird⟩ : ∃ p ∈ w.archive.photos,
      Uuid.ofText "00000000-0000-0000-0000-000000000003" = .ok p.id ∧ p.id = .ofNat 3 := by
    decide +kernel
  have hempty : w.archive.cyclists = [] := by decide +kernel
  obtain ⟨hrange, requestId, now, w', t, bs, hrun, harchive, hmirrors, -⟩ :=
    accepted_classification_is_stored ⟨.default, []⟩ (by decide) rfl (by decide) hid hbody haccepted
      (by decide +kernel) (by decide +kernel) hp ⟨by decide +kernel, by decide +kernel⟩ (by decide +kernel)
  obtain ⟨b, bs, hb, hbs, rfl⟩ := List.forall₂_cons_right_iff.1 hmirrors
  cases hbs
  refine ⟨hempty, hrange _ (List.mem_singleton_self _), _, w', hrun, rfl, ?_⟩
  have hcyclists : w'.archive.cyclists = w.archive.cyclists ++ [.ofEntity b.cyclist] := by
    rw [harchive]
    rfl
  have hone : (Binary64.ofInt 1).withoutZeroSign = .ofInt 1 := by decide +kernel
  rw [hcyclists, hempty]
  simp [CyclistRow.ofEntity, hb.photoId, hb.box, hb.confidence, hthird, edgeDetection, hone]

end RaceAlbum
