import RaceAlbum.Proofs.Detection.Ranges
import RaceAlbum.Proofs.Service.Effects

/-!
# Sessions

A session is a list of calls that are made one after the other, each in the world that the one before it left. What every
effect of a call keeps is kept by a session (`session_keeps`); it may speak of what is left on the tape and of the calls that
were made.
-/

namespace RaceAlbum

open Program

/-- A call that was made, and whether it succeeded. -/
structure MadeCall where
  call : ServiceCall
  succeeded : Bool

/-- Makes calls one after the other. -/
def session {σ : Type} (h : Handler σ) : List ServiceCall → σ → List MadeCall × σ
  | [], s => ([], s)
  | c :: rest, s =>
    let (r, s) := run h c.program s
    let (made, s) := session h rest s
    (⟨c, r.isOk⟩ :: made, s)

/-- The detections that a call reports were accepted. -/
def ServiceCall.IsChecked : ServiceCall → Prop
  | classify _ ds => Detection.Accepted ds
  | classifyLoose .. => False
  | _ => True

/-- What every effect of a checked call keeps is kept by a session, whatever calls were made before it. -/
theorem session_keeps_from {I : Tape → Archive → List MadeCall → Prop}
    (hstep : ∀ {c ms us succeeded t t' a a' past}, ServiceCall.IsChecked c → I t a past → Tape.Reads t t' ms us →
      Effect a ms us c succeeded a' → I t' a' (past ++ [⟨c, succeeded⟩]))
    {calls : List ServiceCall} (hcalls : ∀ c ∈ calls, c.IsChecked) {w : World Tape} {past : List MadeCall}
    (hw : I w.supply w.archive past) :
    I (session taped calls w).2.supply (session taped calls w).2.archive (past ++ (session taped calls w).1) := by
  induction calls generalizing w past with
  | nil => simpa [session] using hw
  | cons c rest ih =>
    obtain ⟨hc, hrest⟩ := List.forall_mem_cons.1 hcalls
    have hloose : ∀ id ds, c ≠ .classifyLoose id ds := by
      rintro id ds rfl
      exact hc
    obtain ⟨ms, us, hreads, heffect⟩ := ServiceCall.effect hloose (h := rfl)
    have := ih hrest (hstep hc hw hreads heffect)
    rwa [List.append_assoc] at this

/-- What holds before any call is made and is kept by every effect of a checked call holds at the end of a session. -/
theorem session_keeps {I : Tape → Archive → List MadeCall → Prop}
    (hstep : ∀ {c ms us succeeded t t' a a' past}, ServiceCall.IsChecked c → I t a past → Tape.Reads t t' ms us →
      Effect a ms us c succeeded a' → I t' a' (past ++ [⟨c, succeeded⟩]))
    {calls : List ServiceCall} (hcalls : ∀ c ∈ calls, c.IsChecked) {w : World Tape} (hw : I w.supply w.archive []) :
    I (session taped calls w).2.supply (session taped calls w).2.archive (session taped calls w).1 := by
  have h := session_keeps_from hstep hcalls hw
  rwa [List.nil_append] at h

/-! ## A small session -/

/-- A cyclist with a plate and the colour of a helmet. -/
def smallDetection : Detection where
  box := [("x", .zero)]
  confidence := .ofRatio false 987654 1000000
  plate := some ⟨42, some (.ofRatio false 99999 100000)⟩
  colors := [⟨"helmet", "red", "#ff0000", .ofRatio false 33333 1000⟩]

/-- An event, two files of the same name, of which the second one is refused, and two classifications of the first. -/
def smallSession : List ServiceCall :=
  [.createEvent ⟨"Tour", .last, none⟩,
   .uploadPhotos (.ofNat 1) [⟨"a.jpg", "image/jpeg", [0]⟩, ⟨"a.jpg", "image/jpeg", [0]⟩],
   .classify (.ofNat 3) [smallDetection], .classify (.ofNat 3) [smallDetection, smallDetection]]

/-- Readings one microsecond apart, and counted identifiers. -/
def smallTape : Tape where
  moments := (List.range 20).map fun n => ⟨.first, .ofMicros n⟩
  ids := (List.range 20).map fun n => .ofNat (n + 1)

/-- A bucket without objects. -/
def smallStorage : Storage := .bucket ⟨⟨"album", "", "", ""⟩, [], [], []⟩

theorem smallSession_isChecked : ∀ c ∈ smallSession, c.IsChecked := by
  have haccepted (ds : List Detection)
      (h : (PhotoClassification.form.read (PhotoClassification.form.write ⟨ds⟩)).gives ⟨ds⟩ = true) :
      Detection.Accepted ds := ⟨_, Checked.eq_ok_of_gives h⟩
  have h₁ : Detection.Accepted [smallDetection] := haccepted _ (by decide +kernel)
  have h₂ : Detection.Accepted [smallDetection, smallDetection] := haccepted _ (by decide +kernel)
  simp only [smallSession, List.forall_mem_cons]
  exact ⟨trivial, trivial, h₁, h₂, List.forall_mem_nil _⟩

end RaceAlbum
