import RaceAlbum.Proofs.Program.Failures
import RaceAlbum.Proofs.World.Answers
import RaceAlbum.Service.Call

/-!
# What services ask

Entities are made, changed and marked with moments and identifiers only: what builds them asks the supply and nobody else
(`AsksSupply`). So rows and objects are touched by the few questions that the services ask themselves.
-/

namespace RaceAlbum

open Program

variable {α β : Type}

/-- A program asks the supply and nobody else. -/
abbrev AsksSupply (x : Program α) : Prop := Asks (fun p => p.addressee = .supply) x

/-- A program asks no one for a change of rows or objects. -/
abbrev AsksNoWrite (x : Program α) : Prop := Asks (fun p => p.isWrite = false) x

/-- The clock and the identifiers are no part of what is stored. -/
theorem Port.isWrite_of_supply {p : Port} (hp : p.addressee = .supply) : p.isWrite = false := by
  cases p <;> first | rfl | cases hp

/-- What asks the supply only asks for no change. -/
theorem AsksSupply.noWrite {x : Program α} (hx : AsksSupply x) : AsksNoWrite x :=
  hx.mono fun _ => Port.isWrite_of_supply

/-- A question that reads does not write. -/
theorem call_asksNoWrite {p : Port} (hp : p.isWrite = false) : AsksNoWrite (call p) := .call hp

/-- The clock is asked of the supply. -/
theorem readClock_asksSupply : AsksSupply readClock := .readClock rfl

/-- So is an identifier. -/
theorem takeId_asksSupply : AsksSupply takeId := .takeId rfl

/-! ## Events -/

/-- Whether a date is past is seen from the clock. -/
theorem requireDate_asksSupply (d : Date) : AsksSupply (Event.requireDate d) :=
  readClock_asksSupply.bind fun _ => .require _ _

/-- A new event needs an identifier and the clock. -/
theorem createEvent_asksSupply (e : NewEvent) : AsksSupply (Event.create e) := by
  refine (Asks.require _ _).bind fun _ => (requireDate_asksSupply _).bind fun _ => takeId_asksSupply.bind fun _ => ?_
  exact (readClock_asksSupply.bind fun _ => .done _).bind fun _ => .done _

/-- A date that is not changed is not checked. -/
theorem changedDate_asksSupply (d? : Option Date) : AsksSupply (match d? with
    | some d => Event.requireDate d
    | none => pure ()) := by
  cases d? with
  | none => exact .done _
  | some d => exact requireDate_asksSupply d

/-- A change of an event needs the clock. -/
theorem updateEvent_asksSupply (e : Event) (c : Event.Changes) : AsksSupply (e.update c) := by
  unfold Event.update
  split
  · exact .done _
  · refine (changedDate_asksSupply _).attempt.bind fun r => ?_
    cases r with
    | error f => exact .done _
    | ok _ => exact readClock_asksSupply.bind fun _ => .done _

/-- So does its deletion. -/
theorem softDelete_asksSupply (e : Event) : AsksSupply e.softDelete := readClock_asksSupply.bind fun _ => .done _

/-! ## Photos -/

/-- A new photo needs an identifier and the clock. -/
theorem createPhoto_asksSupply (p : NewPhoto) : AsksSupply (Photo.create p) := by
  unfold Photo.create
  split
  · exact .failed _
  · exact takeId_asksSupply.bind fun _ => readClock_asksSupply.bind fun _ => .done _

/-- A file that is uploaded needs one more identifier, for the key of its object. -/
theorem prepare_asksSupply (eventId : Uuid) (file : UploadedFile) : AsksSupply (PhotoService.prepare eventId file) :=
  takeId_asksSupply.bind fun _ => (Asks.ofExcept _).bind fun _ => (createPhoto_asksSupply _).bind fun _ => .done _

/-- To discard an object asks the store alone. -/
theorem discard_asks (key : String) : Asks (fun p => p.addressee = .storage) (PhotoService.discard key) := by
  have hcall : Asks (fun p => p.addressee = .storage) (call (.removeObject key)) := .call rfl
  refine hcall.attempt.bind ?_
  rintro ((f | _) | _)
  all_goals first | exact .done _ | exact .failed _

/-- A photo is completed at the moment that the clock shows. -/
theorem complete_asksSupply (p : Photo) : AsksSupply p.complete := readClock_asksSupply.bind fun _ => .done _

/-! ## Detections -/

/-- A new cyclist needs an identifier and the clock. -/
theorem createCyclist_asksSupply (photoId : Uuid) (box : BoundingBox) (confidence : Binary64) :
    AsksSupply (Cyclist.create photoId box confidence) :=
  takeId_asksSupply.bind fun _ => readClock_asksSupply.bind fun _ => .done _

/-- So does a new plate. -/
theorem createPlate_asksSupply (cyclistId : Uuid) (p : PlateDetection) : AsksSupply (Plate.create cyclistId p) :=
  (Asks.require _ _).bind fun _ => takeId_asksSupply.bind fun _ => readClock_asksSupply.bind fun _ => .done _

/-- So does a new colour. -/
theorem createColor_asksSupply (cyclistId : Uuid) (c : ColorDetection) : AsksSupply (EquipmentColor.create cyclistId c) :=
  (Asks.require _ _).bind fun _ => takeId_asksSupply.bind fun _ => (Asks.ofExcept _).bind fun _ =>
    readClock_asksSupply.bind fun _ => .done _

/-- What is made of one detection needs no more than its entities do. -/
theorem ofDetection_asksSupply (photoId : Uuid) (d : Detection) : AsksSupply (Bundle.ofDetection photoId d) := by
  refine (createCyclist_asksSupply _ _ _).bind fun c => ?_
  have hcolors : AsksSupply (forAll (EquipmentColor.create c.id) d.colors) := .forAll (createColor_asksSupply c.id) _
  cases d.plate with
  | none => exact hcolors.bind fun _ => .done _
  | some p => exact (createPlate_asksSupply c.id p).map.bind fun _ => hcolors.bind fun _ => .done _

/-- Nor does what is made of several. -/
theorem ofDetections_asksSupply (photoId : Uuid) (ds : List Detection) :
    AsksSupply (forAll (Bundle.ofDetection photoId) ds) :=
  .forAll (ofDetection_asksSupply photoId) ds

/-- A number that is read loosely is compared without a question. -/
theorem requireBetween_asksSupply (v : Value) (least most : Int) (r : Rule) :
    AsksSupply (LooseDetection.requireBetween v least most r) :=
  (Asks.ofExcept _).bind fun _ => .require _ _

/-- A detection whose values were not checked needs what a checked one needs. -/
theorem looseBundle_asksSupply (photoId : Uuid) (d : LooseDetection) : AsksSupply (LooseDetection.bundle photoId d) := by
  have hcyclist : AsksSupply (LooseDetection.cyclist photoId d) := takeId_asksSupply.bind fun _ =>
    (Asks.ofExcept _).bind fun _ => readClock_asksSupply.bind fun _ => .done _
  have hplate (id : Uuid) (p : Fields) : AsksSupply (LooseDetection.plate id p) :=
    (requireBetween_asksSupply _ _ _ _).bind fun _ => takeId_asksSupply.bind fun _ =>
      readClock_asksSupply.bind fun _ => .done _
  have hcolor (id : Uuid) (c : Fields) : AsksSupply (LooseDetection.color id c) :=
    (requireBetween_asksSupply _ _ _ _).bind fun _ => takeId_asksSupply.bind fun _ => (Asks.ofExcept _).bind fun _ =>
      readClock_asksSupply.bind fun _ => .done _
  refine hcyclist.bind fun c => ?_
  have hcolors : AsksSupply (forAll (LooseDetection.color c.id) (LooseRow.rows d "colors")) := .forAll (hcolor c.id) _
  cases LooseRow.row? d "plate_number" with
  | none => exact hcolors.bind fun _ => .done _
  | some p => exact (hplate c.id p).map.bind fun _ => hcolors.bind fun _ => .done _

/-- So do several. -/
theorem looseBundles_asksSupply (photoId : Uuid) (ds : List LooseDetection) :
    AsksSupply (forAll (LooseDetection.bundle photoId) ds) :=
  .forAll (looseBundle_asksSupply photoId) ds

end RaceAlbum
