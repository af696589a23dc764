import RaceAlbum.Proofs.Program.Run
import RaceAlbum.Proofs.Service.Questions

/-!
# Supplies that never run out

A handler supplies programs if it has a moment whenever the clock is read and an identifier whenever one is taken. In a world
with such a supply both are given, and rows and objects stay as they are.
-/

namespace RaceAlbum

open Program

variable {α σ : Type}

/-- The clock can always be read, and an identifier can always be taken. -/
structure Handler.Supplies (h : Handler σ) : Prop where
  moments : ∀ s, ∃ (m : Moment) (s' : σ), h .readClock s = (.ok m, s')
  ids : ∀ s, ∃ (id : Uuid) (s' : σ), h .takeId s = (.ok id, s')

namespace Handler.Supplies

variable {h : Handler σ}

/-- A reading of the clock is a moment of universal time. -/
theorem run_readClock (hsupplies : h.Supplies) (s : σ) : ∃ m s', run h readClock s = (.ok (.ofUtc m), s') := by
  obtain ⟨m, s', hm⟩ := hsupplies.moments s
  have hcall : run h (call .readClock) s = (.ok m, s') := by rw [run_call, hm]
  exact ⟨m, s', (run_bind_of_ok hcall).trans rfl⟩

theorem run_takeId (hsupplies : h.Supplies) (s : σ) : ∃ id s', run h takeId s = (.ok id, s') := by
  obtain ⟨id, s', hid⟩ := hsupplies.ids s
  exact ⟨id, s', (run_call .takeId s).trans hid⟩

end Handler.Supplies

/-- The counted supply never runs out. -/
theorem Supply.answer_supplies : Supply.answer.Supplies where
  moments s := ⟨s.readClock.1, s.readClock.2, rfl⟩
  ids s := ⟨s.takeId.1, s.takeId.2, rfl⟩

/-- A world supplies programs as its supply does. -/
theorem World.answerWith_supplies {supply : Handler σ} (h : supply.Supplies) : (World.answerWith supply).Supplies where
  moments w := by
    obtain ⟨m, s', hm⟩ := h.moments w.supply
    exact ⟨m, { w with supply := s' }, by rw [answerWith_supply rfl, hm]⟩
  ids w := by
    obtain ⟨id, s', hid⟩ := h.ids w.supply
    exact ⟨id, { w with supply := s' }, by rw [answerWith_supply rfl, hid]⟩

/-- What asks for no change leaves rows and objects as they are. -/
theorem AsksNoWrite.run_sameStores {supply : Handler σ} {x : Program α} {r : Except Failure α} {w w' : World σ}
    (hx : AsksNoWrite x) (h : run (World.answerWith supply) x w = (r, w')) : World.SameStores w w' := by
  have hread (p : Port) (w : World σ) (hp : p.isWrite = false) : World.SameStores w (World.answerWith supply p w).2 :=
    World.answerWith_read hp w
  have hsame := hx.run_rel World.SameStores.refl World.SameStores.trans hread w
  rw [h] at hsame
  exact hsame

/-- A world without rows and objects, at the first moment of the calendar. -/
def World.empty : World := ⟨⟨⟨.first, .midnight⟩, 0, [], 0⟩, .empty, .bucket ⟨⟨"album", "", "", ""⟩, [], [], []⟩⟩

end RaceAlbum
