import RaceAlbum.Proofs.Archive.Constraints
import RaceAlbum.Proofs.Service.Session

/-!
# What all calls keep

A tape that gives each identifier once, and none that an event or a photo has, does so after every call (`Unused.call`):
what a call adds bears identifiers that it took off the tape, and what it changes keeps its own. Together with the constraints
of the tables this is what sessions start from and leave (`Regular.session`), whether the messages of their calls were checked
or not.
-/

namespace RaceAlbum

open Program

/-- No event and no photo has an identifier that is still to be given, and none is given twice. -/
structure Unused (t : Tape) (a : Archive) : Prop where
  ids : t.ids.Nodup
  events : ∀ r ∈ a.events, r.id ∉ t.ids
  photos : ∀ r ∈ a.photos, r.id ∉ t.ids

variable {t t' : Tape} {ms : List Moment} {us : List Uuid} {a a' : Archive} {w w' : World Tape}

/-! ## Classifications that were not checked -/

/-- A classification that was not checked leaves the rows as they are, or it marks a photo and adds bundles. -/
theorem classifyLoose_effect {id : Uuid} {ds : List LooseDetection} {r : Except Failure Uuid}
    (h : run taped (ClassificationService.classifyLoose id ds) w = (r, w')) :
    w'.archive = w.archive ∨ ∃ p bs, w'.archive = w.archive.classified p bs := by
  cases r with
  | error f =>
    have hsame := (ServiceCall.program_writesOnce (c := .classifyLoose id ds) rfl).run_error
      (fun hc => by simp [ServiceCall.DeletesPhoto] at hc) h
    exact .inl hsame.1
  | ok answer =>
    obtain ⟨p, w₁, hfind, h⟩ := run_bind_ok h
    obtain ⟨loose, w₂, hloose, h⟩ := run_bind_ok h
    obtain ⟨q, w₃, hcomplete, h⟩ := run_bind_ok h
    obtain ⟨bs, -, h⟩ := run_ofExcept_bind_ok h
    obtain ⟨_, w₄, hsave, h⟩ := run_bind_ok h
    obtain ⟨-, rfl⟩ := Prod.mk.inj h
    obtain ⟨rfl, -⟩ := findPhoto_ok hfind
    obtain ⟨_, _, hd⟩ := (looseBundles_asksSupply p.id ds).noWrite.run_drew hloose
    obtain ⟨_, _, hd'⟩ := (complete_asksSupply p).noWrite.run_drew hcomplete
    have hmade := Archive.transact_eq_ok_iff.1 (run_archive rfl hsave).1
    rw [(hd.trans hd').archive] at hmade
    exact .inr ⟨_, bs, Archive.classification_made hmade⟩

namespace ServiceCall

/-- Every call has one of the listed effects, or it marks a photo and adds bundles. -/
theorem effect_or_classified {c : ServiceCall} {r : Except Failure c.Answer} (h : run taped c.program w = (r, w')) :
    ∃ ms us, w.supply.Reads w'.supply ms us ∧
      (Effect w.archive ms us c r.isOk w'.archive ∨
        (¬c.DeletesPhoto ∧ (w'.archive = w.archive ∨ ∃ p bs, w'.archive = w.archive.classified p bs))) := by
  by_cases hc : ∃ id ds, c = .classifyLoose id ds
  · obtain ⟨id, ds, rfl⟩ := hc
    obtain ⟨ms, us, hreads⟩ := run_reads (ServiceCall.classifyLoose id ds).program w
    rw [h] at hreads
    exact ⟨ms, us, hreads, .inr ⟨by simp [DeletesPhoto], classifyLoose_effect h⟩⟩
  · obtain ⟨ms, us, hreads, heffect⟩ := effect (fun id ds heq => hc ⟨id, ds, heq⟩) h
    exact ⟨ms, us, hreads, .inl heffect⟩

end ServiceCall

/-! ## What every call keeps -/

namespace Unused

/-- The tape goes on. -/
theorem later (h : Unused t a) (hreads : t.Reads t' ms us) : Unused t' a where
  ids := (List.nodup_append.1 (hreads.ids ▸ h.ids)).2.1
  events := fun r hr hid => h.events r hr (hreads.ids ▸ List.mem_append_right _ hid)
  photos := fun r hr hid => h.photos r hr (hreads.ids ▸ List.mem_append_right _ hid)

/-- An identifier that was taken is not on the tape any more. -/
theorem not_mem_of_taken (h : Unused t a) (hreads : t.Reads t' ms us) {id : Uuid} (hid : id ∈ us) : id ∉ t'.ids :=
  fun hid' => (List.nodup_append.1 (hreads.ids ▸ h.ids)).2.2 id hid id hid' rfl

/-- An identifier that was taken is that of no event and of no photo. -/
theorem ne_of_taken (h : Unused t a) (hreads : t.Reads t' ms us) {id : Uuid} (hid : id ∈ us) :
    (∀ r ∈ a.events, r.id ≠ id) ∧ ∀ r ∈ a.photos, r.id ≠ id := by
  have hgiven : id ∈ t.ids := hreads.ids ▸ List.mem_append_left _ hid
  exact ⟨fun r hr heq => h.events r hr (heq ▸ hgiven), fun r hr heq => h.photos r hr (heq ▸ hgiven)⟩

/-- Photos of new identifiers are added after those that are there. -/
theorem photosStored {ps : List Photo} (h : Unused t a) (hreads : t.Reads t' ms us) (hsub : (ps.map Photo.id).Sublist us)
    (hmade : Made a (ps.map fun p a => a.storePhoto p) a') : a' = { a with photos := a.photos ++ ps.map .ofEntity } := by
  have hus := (List.nodup_append.1 (hreads.ids ▸ h.ids)).1
  exact Archive.storePhotos_made hmade (hsub.nodup hus) fun p hp =>
    (h.ne_of_taken hreads (hsub.subset (List.mem_map_of_mem hp))).2

theorem classified (h : Unused t a) (p : PhotoRow) (bs : List Bundle) : Unused t (a.classified p bs) where
  ids := h.ids
  events := h.events
  photos := by
    change ∀ r ∈ a.photos.map (Archive.mark _ _ _ _), _
    rw [List.forall_mem_map]
    intro r hr
    rw [Archive.mark_id]
    exact h.photos r hr

theorem effect {c : ServiceCall} {succeeded : Bool} (h : Unused t a) (hreads : t.Reads t' ms us)
    (heffect : Effect a ms us c succeeded a') : Unused t' a' := by
  have hlater := h.later hreads
  cases heffect with
  | nothing _ => exact hlater
  | eventSaved _ hid _ _ hsave =>
    rw [Archive.saveEvent_ok hsave]
    refine ⟨hlater.ids, fun r hr => ?_, hlater.photos⟩
    rcases mem_upsert.1 hr with rfl | ⟨hr, -⟩
    · rcases hid with hid | ⟨s, hs, -, hid⟩
      · exact h.not_mem_of_taken hreads hid
      · intro hmem
        exact hlater.events s hs (hid ▸ hmem)
    · exact hlater.events r hr
  | photosStored _ _ hsub hmade =>
    rw [h.photosStored hreads hsub hmade]
    refine ⟨hlater.ids, hlater.events, List.forall_mem_append.2 ⟨hlater.photos, List.forall_mem_map.2 fun p hp => ?_⟩⟩
    exact h.not_mem_of_taken hreads (hsub.subset (List.mem_map_of_mem hp))
  | photoDeleted hdelete =>
    rw [Archive.deletePhoto_ok hdelete]
    exact ⟨hlater.ids, hlater.events, fun r hr => hlater.photos r (List.mem_filter.1 hr).1⟩
  | classified _ _ _ _ _ hmade =>
    rw [Archive.classification_made hmade]
    exact hlater.classified _ _

/-- Every call keeps it. -/
theorem call (c : ServiceCall) (h : Unused w.supply w.archive) :
    Unused (run taped c.program w).2.supply (run taped c.program w).2.archive := by
  obtain ⟨ms, us, hreads, heffect | ⟨-, hsame | ⟨p, bs, hclassified⟩⟩⟩ := ServiceCall.effect_or_classified (h := rfl)
  · exact h.effect hreads heffect
  · rw [hsame]
    exact h.later hreads
  · rw [hclassified]
    exact (h.later hreads).classified p bs

end Unused

/-! ## Sessions -/

/-- No call forbids or allows changes. -/
theorem Effect.blocks_eq {c : ServiceCall} {succeeded : Bool} (h : Effect a ms us c succeeded a') : a'.blocks = a.blocks := by
  cases h with
  | nothing _ => rfl
  | eventSaved _ _ _ _ hsave => rw [Archive.saveEvent_ok hsave]
  | photosStored _ _ _ hmade =>
    refine hmade.keeps (P := fun b => b.blocks = a.blocks) (fun s hs b b' hb hmade => ?_) rfl
    obtain ⟨p, -, rfl⟩ := List.mem_map.1 hs
    rw [(Archive.savePhoto_ok (Archive.storePhoto_eq_ok_iff.1 hmade)).1]
    exact hb
  | photoDeleted hdelete => rw [Archive.deletePhoto_ok hdelete]
  | classified _ _ _ _ _ hmade =>
    rw [Archive.classification_made hmade]
    rfl

/-- Identifiers are given once, the constraints of the tables hold, and no change of them is forbidden. -/
structure Regular (t : Tape) (a : Archive) : Prop extends Unused t a where
  constrained : a.Constrained
  unblocked : a.blocks = []

namespace Regular

/-- Every call keeps it. -/
theorem call (c : ServiceCall) (h : Regular w.supply w.archive) :
    Regular (run taped c.program w).2.supply (run taped c.program w).2.archive := by
  refine ⟨h.toUnused.call c, h.constrained.run c.program, Eq.trans ?_ h.unblocked⟩
  obtain ⟨_, _, -, heffect | ⟨-, hsame | ⟨p, bs, hclassified⟩⟩⟩ := ServiceCall.effect_or_classified (c := c) (h := rfl)
  · exact heffect.blocks_eq
  · rw [hsame]
  · rw [hclassified]
    rfl

/-- Every session keeps it. -/
theorem session (calls : List ServiceCall) (h : Regular w.supply w.archive) :
    Regular (RaceAlbum.session taped calls w).2.supply (RaceAlbum.session taped calls w).2.archive := by
  induction calls generalizing w with
  | nil => exact h
  | cons c rest ih => exact ih (h.call c)

end Regular

end RaceAlbum
