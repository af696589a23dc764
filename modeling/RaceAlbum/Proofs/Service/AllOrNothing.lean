import RaceAlbum.Proofs.Program.Run
import RaceAlbum.Proofs.Service.Questions

/-!
# A call that fails has changed nothing

Every call but an upload looks things up and makes its entities before it writes, writes once, and can fail no more after
that; only the deletion of a photo has its object still to remove. `WritesOnce` is this shape of a program. A run of such a
program that fails leaves rows and objects as they were (`WritesOnce.run_error`), since a refused transaction takes back
what its statements did.
-/

namespace RaceAlbum

open Program

variable {α β σ : Type}

/-- The removals of objects that a run asks for succeed. -/
def RemovalsSucceed (h : Handler σ) (x : Program α) (s : σ) : Prop :=
  ∀ key s', Asked h x s (.removeObject key) s' → (h (.removeObject key) s').1 = .ok ()

theorem RemovalsSucceed.later {h : Handler σ} {p : Port} {next : Except Failure p.Answer → Program α} {s : σ}
    (hr : RemovalsSucceed h (.ask p next) s) : RemovalsSucceed h (next (h p s).1) (h p s).2 :=
  fun key s' hs => hr key s' (.later hs)

/-- A program that can fail only at the removal of an object, and not even there unless `R` holds. -/
inductive Settled (R : Prop) : Program α → Prop where
  | done (a : α) : Settled R (.done a)
  | remove {key : String} {next : Except Failure Unit → Program α} :
      R → Settled R (next (.ok ())) → Settled R (.ask (.removeObject key) next)

/-- A program that writes at most once, and is settled when its write has succeeded. -/
inductive WritesOnce (R : Prop) : Program α → Prop where
  | done (a : α) : WritesOnce R (.done a)
  | failed (f : Failure) : WritesOnce R (.failed f)
  | read {p : Port} {next : Except Failure p.Answer → Program α} :
      p.isWrite = false → (∀ r, WritesOnce R (next r)) → WritesOnce R (.ask p next)
  | write {p : Port} {next : Except Failure p.Answer → Program α} :
      p.addressee = .archive → (∀ f, WritesOnce R (next (.error f))) → (∀ a, Settled R (next (.ok a))) →
        WritesOnce R (.ask p next)

variable {R : Prop}

/-- A settled program succeeds where objects can be removed. -/
theorem Settled.run_ok {h : Handler σ} {x : Program α} {s : σ} (hx : Settled R x) (hr : R → RemovalsSucceed h x s) :
    ∃ a s', run h x s = (.ok a, s') := by
  induction hx generalizing s with
  | done a => exact ⟨a, s, rfl⟩
  | @remove key next hR _ ih =>
    have hok := hr hR key s (.now _ _ _)
    have hlater := (hr hR).later
    rw [hok] at hlater
    obtain ⟨a, s', ha⟩ := ih fun _ => hlater
    refine ⟨a, s', ?_⟩
    change run h (next (h (.removeObject key) s).1) (h (.removeObject key) s).2 = _
    rw [hok]
    exact ha

namespace WritesOnce

/-- A program that asks for no change writes at most once. -/
theorem of_noWrite {x : Program α} (hx : AsksNoWrite x) : WritesOnce R x := by
  induction hx with
  | done a => exact .done a
  | failed f => exact .failed f
  | ask hp _ ih => exact .read hp ih

/-- A program that goes on from one which asks for no change writes what the second part writes. -/
theorem bind {x : Program α} {k : α → Program β} (hx : AsksNoWrite x) (hk : ∀ a, WritesOnce R (k a)) :
    WritesOnce R (x >>= k) := by
  change WritesOnce R (Program.bind x k)
  induction hx with
  | done a => exact hk a
  | failed f => exact .failed f
  | ask hp _ ih => exact .read hp ih

/-- A single write that is followed by a settled program. -/
theorem call_bind {p : Port} {k : p.Answer → Program β} (hp : p.addressee = .archive) (hk : ∀ a, Settled R (k a)) :
    WritesOnce R (call p >>= k) :=
  .write hp (fun f => .failed f) hk

/-- A run that fails leaves rows and objects as they were, unless an object could not be removed. -/
theorem run_error {supply : Handler σ} {x : Program α} {w w' : World σ} {f : Failure} (hx : WritesOnce R x)
    (hr : R → RemovalsSucceed (World.answerWith supply) x w)
    (hf : run (World.answerWith supply) x w = (.error f, w')) : w.SameStores w' := by
  induction hx generalizing w with
  | done a => cases (Prod.mk.inj hf).1
  | failed g =>
    obtain ⟨-, rfl⟩ := Prod.mk.inj hf
    exact .refl _
  | @read p next hp _ ih => exact (World.answerWith_read hp w).trans (ih _ (fun hR => (hr hR).later) hf)
  | @write p next hp _ hok ih =>
    have hlater := fun hR => (hr hR).later
    change run _ (next (World.answerWith supply p w).1) (World.answerWith supply p w).2 = _ at hf
    cases ha : (World.answerWith supply p w).1 with
    | error g =>
      rw [ha, World.answerWith_archive_error hp ha] at hf hlater
      exact ih g hlater hf
    | ok a =>
      rw [ha] at hf hlater
      obtain ⟨b, s', hb⟩ := (hok a).run_ok hlater
      rw [hb] at hf
      cases (Prod.mk.inj hf).1

end WritesOnce

/-! ## The calls -/

theorem findEvent_asksNoWrite (id : Uuid) : AsksNoWrite (EventService.find id) :=
  (call_asksNoWrite rfl).bind fun _ => .found _ _ _

theorem findPhoto_asksNoWrite (id : Uuid) : AsksNoWrite (PhotoService.find id) :=
  (call_asksNoWrite rfl).bind fun _ => .found _ _ _

theorem saveEvent_writesOnce (e : Event) : WritesOnce R (EventService.save e) := .call_bind rfl fun _ => .done _

namespace ServiceCall

/-- The call deletes a photo. -/
def DeletesPhoto (c : ServiceCall) : Prop := ∃ id, c = .deletePhoto id

/-- Every call but an upload writes at most once; what can fail after that is the removal of the object of a photo that is
deleted. -/
theorem program_writesOnce {c : ServiceCall} (hc : c.isUpload = false) : WritesOnce c.DeletesPhoto c.program := by
  cases c with
  | createEvent e => exact .bind (createEvent_asksSupply e).noWrite saveEvent_writesOnce
  | updateEvent id patch =>
    refine .bind (findEvent_asksNoWrite id) fun e => .bind (updateEvent_asksSupply e _).noWrite ?_
    rintro ⟨e', _ | f⟩
    · exact saveEvent_writesOnce e'
    · exact .failed f
  | deleteEvent id =>
    exact .bind (findEvent_asksNoWrite id) fun e => .bind (softDelete_asksSupply e).noWrite saveEvent_writesOnce
  | getEvent id => exact .of_noWrite ((call_asksNoWrite rfl).bind fun _ => .found _ _ _)
  | listEvents page => exact .of_noWrite (call_asksNoWrite rfl)
  | uploadPhotos eventId files => cases hc
  | getPhoto id =>
    exact .of_noWrite ((call_asksNoWrite rfl).bind fun _ => (Asks.found _ _ _).bind fun _ =>
      (call_asksNoWrite rfl).bind fun _ => .done _)
  | listPhotos eventId page => exact .of_noWrite (call_asksNoWrite rfl)
  | searchPhotos filters page => exact .of_noWrite (call_asksNoWrite rfl)
  | deletePhoto id =>
    exact .bind (findPhoto_asksNoWrite id) fun p => .call_bind rfl fun _ => .remove ⟨id, rfl⟩ (.done _)
  | classify id ds =>
    exact .bind (findPhoto_asksNoWrite id) fun p => .bind (ofDetections_asksSupply p.id ds).noWrite fun bs =>
      .bind (complete_asksSupply p).noWrite fun p => .call_bind rfl fun _ => .done _
  | classifyLoose id ds =>
    exact .bind (findPhoto_asksNoWrite id) fun p => .bind (looseBundles_asksSupply p.id ds).noWrite fun bs =>
      .bind (complete_asksSupply p).noWrite fun p => .bind (Asks.ofExcept _) fun kept => .call_bind rfl fun _ => .done _

/-- Every call but an upload ends with what the archive refuses it. -/
theorem program_passesOn {c : ServiceCall} (hc : c.isUpload = false) :
    PassesOn (fun p => p.addressee = .archive) c.program := by
  have ofSupply {α : Type} {x : Program α} (hx : AsksSupply x) : PassesOn (fun p => p.addressee = .archive) x :=
    .of_asks (hx.mono fun p hp => by simp [hp])
  have findEvent (id : Uuid) : PassesOn (fun p => p.addressee = .archive) (EventService.find id) :=
    (PassesOn.call _).bind fun _ => ofSupply (.found _ _ _)
  have findPhoto (id : Uuid) : PassesOn (fun p => p.addressee = .archive) (PhotoService.find id) :=
    (PassesOn.call _).bind fun _ => ofSupply (.found _ _ _)
  have saveEvent (e : Event) : PassesOn (fun p => p.addressee = .archive) (EventService.save e) :=
    (PassesOn.call _).bind fun _ => .done _
  cases c with
  | createEvent e => exact (ofSupply (createEvent_asksSupply e)).bind saveEvent
  | updateEvent id patch =>
    refine (findEvent id).bind fun e => (ofSupply (updateEvent_asksSupply e _)).bind ?_
    rintro ⟨e', _ | f⟩
    · exact saveEvent e'
    · exact .failed f
  | deleteEvent id => exact (findEvent id).bind fun e => (ofSupply (softDelete_asksSupply e)).bind saveEvent
  | getEvent id => exact (PassesOn.call _).bind fun _ => ofSupply (.found _ _ _)
  | listEvents page => exact .call _
  | uploadPhotos eventId files => cases hc
  | getPhoto id =>
    exact (PassesOn.call _).bind fun _ => (ofSupply (.found _ _ _)).bind fun _ => (PassesOn.call _).bind fun _ => .done _
  | listPhotos eventId page => exact .call _
  | searchPhotos filters page => exact .call _
  | deletePhoto id =>
    exact (findPhoto id).bind fun p => (PassesOn.call _).bind fun _ => (PassesOn.call _).bind fun _ => .done _
  | classify id ds =>
    exact (findPhoto id).bind fun p => (ofSupply (ofDetections_asksSupply p.id ds)).bind fun bs =>
      (ofSupply (complete_asksSupply p)).bind fun p => (PassesOn.call _).bind fun _ => .done _
  | classifyLoose id ds =>
    exact (findPhoto id).bind fun p => (ofSupply (looseBundles_asksSupply p.id ds)).bind fun bs =>
      (ofSupply (complete_asksSupply p)).bind fun p => (ofSupply (.ofExcept _)).bind fun kept =>
        (PassesOn.call _).bind fun _ => .done _

end ServiceCall

/-- A call that fails has changed nothing, and it fails as the archive did. Every call but an upload leaves rows and objects
as they were where it fails, provided that the object of a photo which is deleted can be removed; what the archive refuses
to any of its questions is what the caller is told. A classification that the archive refuses, of whatever photo and
detections, leaves every row as it was, whichever of its statements was refused and whatever those before it had done. -/
theorem failed_call_changes_nothing (supply : Handler σ) :
    (∀ (c : ServiceCall) (w w' : World σ) (f : Failure), c.isUpload = false →
      (c.DeletesPhoto → RemovalsSucceed (World.answerWith supply) c.program w) →
      run (World.answerWith supply) c.program w = (.error f, w') → w'.archive = w.archive ∧ w'.storage = w.storage) ∧
    (∀ (c : ServiceCall) (w w₁ : World σ) (q : Port) (f : Failure), c.isUpload = false →
      Asked (World.answerWith supply) c.program w q w₁ → q.addressee = .archive →
      (World.answerWith supply q w₁).1 = .error f → (run (World.answerWith supply) c.program w).1 = .error f) ∧
    (∀ (a a' : Archive) (p : PhotoRow) (bundles : List Bundle) (f : Failure),
      a.saveClassification p bundles = (.error f, a') →
      a' = a ∧ ∃ before s after a₁, Archive.classification p bundles = before ++ s :: after ∧ Made a before a₁ ∧
        s a₁ = .error f) := by
  refine ⟨fun c w w' f hc hr hf => ?_, fun c w w₁ q f hc hq ha hf => ?_, fun a a' p bundles f hf => ?_⟩
  · exact (ServiceCall.program_writesOnce hc).run_error hr hf
  · rw [(ServiceCall.program_passesOn hc).run_eq hq ha hf]
  · exact Archive.transact_error hf

/-- A world with an event, a photo of it and a cyclist on the photo, whose identifier is given once more by the supply. -/
def crowdedWorld : World where
  supply := ⟨⟨.first, .midnight⟩, 1, [.ofNat 4, .ofNat 3], 0⟩
  archive := {
    events := [⟨.ofNat 1, "Tour", .first, none, .draft, 0, 0, ⟨.first, .midnight⟩, ⟨.first, .midnight⟩, none⟩]
    photos := [⟨.ofNat 2, .ofNat 1, "a.jpg", "events/1/photos/2.jpg", 1, "image/jpeg", none, none, .pending, none, none,
      ⟨.first, .midnight⟩, none⟩]
    cyclists := [⟨.ofNat 3, .ofNat 2, [], .zero, ⟨.first, .midnight⟩⟩]
    plates := []
    colors := []
    blocks := [] }
  storage := .bucket ⟨⟨"album", "", "", ""⟩, [], [], []⟩

/-- Two cyclists are reported of the photo, and the identifier of the second one is taken. The photo is marked and the first
one added before that is found out; both are taken back, and the caller is told what the archive found. -/
theorem taken_identifier_changes_nothing :
    let c := ServiceCall.classify (.ofNat 2) [⟨[], .zero, none, []⟩, ⟨[], .zero, none, []⟩]
    let answer : Handler World := World.answerWith Supply.answer
    let taken : Failure := .violation (.duplicateId .cyclists)
    ∃ (p : Photo) (bundles : List Bundle) (w w' : World),
      Asked answer c.program crowdedWorld (.saveClassification p bundles) w ∧
      (answer (.saveClassification p bundles) w).1 = .error taken ∧
      run answer c.program crowdedWorld = (.error taken, w') ∧
      w'.archive = crowdedWorld.archive ∧ w'.storage = crowdedWorld.storage ∧
      (w.archive.saveClassification (.ofEntity p) bundles).2 = w.archive := by
  intro c answer taken
  have h := failed_call_changes_nothing Supply.answer
  obtain ⟨p, bundles, w, hasked, hrefused⟩ : ∃ p bundles w,
      Asked answer c.program crowdedWorld (.saveClassification p bundles) w ∧
        (answer (.saveClassification p bundles) w).1 = .error taken :=
    ⟨_, _, _, .later (.later (.later (.later (.later (.later (.now _ _ _)))))), rfl⟩
  have htold := Prod.ext (h.2.1 c crowdedWorld w _ taken rfl hasked rfl hrefused) rfl
  have hother : ¬c.DeletesPhoto := by simp [c, ServiceCall.DeletesPhoto]
  have hkept := h.1 c crowdedWorld _ taken rfl (fun hc => absurd hc hother) htold
  exact ⟨p, bundles, w, _, hasked, hrefused, htold, hkept.1, hkept.2, (h.2.2 _ _ _ _ taken (Prod.ext hrefused rfl)).1⟩

end RaceAlbum
