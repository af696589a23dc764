import RaceAlbum.Proofs.Archive.Batches
import RaceAlbum.Proofs.Service.Careful

/-!
# One question of a careful call

What a call that handles lots with care does to its own lots, to the rows of photos and to the bucket when it asks its next
question: one of the moves below, whatever the question is (`Careful.step`). Rows matter only as far as they say where a
photo comes from.
-/

namespace RaceAlbum

open Program

/-- What calls share, as far as lots go: where the photos of the rows come from, and a bucket. -/
structure Stock where
  rows : List Origin
  bucket : BucketStore

/-- What an archive and a bucket hold. -/
def Stock.of (a : Archive) (b : BucketStore) : Stock := ⟨a.photos.map PhotoRow.origin, b⟩

/-- What a call has still to do: its lots, at its stage. -/
structure Task where
  todo : List Lot
  stage : Stage

/-- One question of a call: what it has to do and what is shared, before and after. The lots that it may find are `ls`. -/
inductive Move (ls : List Lot) : Task → Stock → Task → Stock → Prop where
  | still {todo seen k} : Move ls ⟨todo, .calm seen⟩ k ⟨todo, .calm seen⟩ k
  | find {todo seen l k} : l ∈ ls → l.origin ∈ k.rows → Move ls ⟨todo, .calm seen⟩ k ⟨todo, .calm (some l)⟩ k
  | put {todo seen l rows b c} : Move ls ⟨l :: todo, .calm seen⟩ ⟨rows, b⟩ ⟨todo, .saving l⟩
      ⟨rows, { b with
        calls := b.calls ++ [c]
        objects := BucketStore.without l.key b.objects ++ [(l.key, l.file.data)] }⟩
  | putFailed {todo seen l rows b c} :
      Move ls ⟨l :: todo, .calm seen⟩ ⟨rows, b⟩ ⟨todo, .calm seen⟩ ⟨rows, { b with calls := b.calls ++ [c] }⟩
  | save {todo l rows rows' b} : (∀ r, r ∈ rows' ↔ r = l.origin ∨ (r ∈ rows ∧ r.id ≠ l.id)) →
      Move ls ⟨todo, .saving l⟩ ⟨rows, b⟩ ⟨todo, .calm none⟩ ⟨rows', b⟩
  | saveFailed {todo l k} : Move ls ⟨todo, .saving l⟩ k ⟨todo, .removing l⟩ k
  | delete {todo l rows rows' b} : (∀ r, r ∈ rows' ↔ r ∈ rows ∧ r.id ≠ l.id) →
      Move ls ⟨todo, .calm (some l)⟩ ⟨rows, b⟩ ⟨todo, .removing l⟩ ⟨rows', b⟩
  | deleteFailed {todo l k} : Move ls ⟨todo, .calm (some l)⟩ k ⟨todo, .calm none⟩ k
  | remove {todo l rows b c} : Move ls ⟨todo, .removing l⟩ ⟨rows, b⟩ ⟨todo, .calm none⟩
      ⟨rows, { b with calls := b.calls ++ [c], objects := BucketStore.without l.key b.objects }⟩
  | removeFailed {todo l rows b b'} : b' = { b with calls := b.calls ++ [.delete l.key] } → b'.FailedToRemove l.key →
      Move ls ⟨todo, .removing l⟩ ⟨rows, b⟩ ⟨todo, .calm none⟩ ⟨rows, b'⟩

/-! ## Rows and where they come from -/

@[simp] theorem mark_origin {id : Uuid} {status : PhotoStatus} {reason : Option UnclassifiedReason}
    {processedAt : Option Moment} {r : PhotoRow} : (Archive.mark id status reason processedAt r).origin = r.origin := by
  unfold Archive.mark
  split <;> rfl

/-- Where the photos come from when one of them is put in its place. -/
theorem mem_origins_upsert {rows : List PhotoRow} {r : PhotoRow} {o : Origin} :
    o ∈ (upsert PhotoRow.id r rows).map PhotoRow.origin ↔ o = r.origin ∨ (o ∈ rows.map PhotoRow.origin ∧ o.id ≠ r.id) := by
  simp only [List.mem_map, mem_upsert]
  constructor
  · rintro ⟨s, rfl | ⟨hs, hne⟩, rfl⟩
    · exact .inl rfl
    · exact .inr ⟨⟨s, hs, rfl⟩, hne⟩
  · rintro (rfl | ⟨⟨s, hs, rfl⟩, hne⟩)
    · exact ⟨r, .inl rfl, rfl⟩
    · exact ⟨s, .inr ⟨hs, hne⟩, rfl⟩

/-- Where the photos come from when one of them is deleted. -/
theorem mem_origins_delete {rows : List PhotoRow} {id : Uuid} {o : Origin} :
    o ∈ (rows.filter fun r => r.id != id).map PhotoRow.origin ↔ o ∈ rows.map PhotoRow.origin ∧ o.id ≠ id := by
  simp only [List.mem_map, List.mem_filter, bne_iff_ne]
  constructor
  · rintro ⟨s, ⟨hs, hne⟩, rfl⟩
    exact ⟨⟨s, hs, rfl⟩, hne⟩
  · rintro ⟨⟨s, hs, rfl⟩, hne⟩
    exact ⟨s, ⟨hs, hne⟩, rfl⟩

/-- What is asked aside of the archive leaves where the photos come from. -/
theorem Archive.answer_origins {p : Port} (hp : p.isAside = true) (a : Archive) :
    (Archive.answer p a).2.photos.map PhotoRow.origin = a.photos.map PhotoRow.origin := by
  rcases h : Archive.answer p a with ⟨f | x, a'⟩
  · rw [Archive.answer_error h]
  cases p with
  | saveEvent e =>
    obtain ⟨hsave, -⟩ := write_ok h
    rw [saveEvent_ok hsave]
  | saveClassification p bundles =>
    cases x
    rw [classification_made (transact_eq_ok_iff.1 h)]
    simp [classified, withBundles, Function.comp_def]
  | takeId | findPhoto | savePhoto | deletePhoto | putObject | removeObject => cases hp
  | _ => rw [← (Prod.mk.inj h).2]

/-- What is asked aside takes no identifier off a tape. -/
theorem Tape.answer_ids {p : Port} (hp : p.isAside = true) (t : Tape) : (Tape.answer p t).2.ids = t.ids := by
  cases p with
  | readClock => rcases t with ⟨_ | ⟨m, ms⟩, us⟩ <;> rfl
  | takeId => cases hp
  | _ => rfl

/-- What is asked aside leaves the objects. -/
theorem Storage.answer_aside {p : Port} (hp : p.isAside = true) (s : Storage) : (Storage.answer p s).2 = s := by
  cases p with
  | putObject | removeObject => cases hp
  | _ => rfl

/-- Two worlds have the same identifiers to be given, photos that come from the same files, and the same objects. -/
structure SameLots (w w' : World Tape) : Prop where
  ids : w'.supply.ids = w.supply.ids
  origins : w'.archive.photos.map PhotoRow.origin = w.archive.photos.map PhotoRow.origin
  storage : w'.storage = w.storage

/-- What is asked aside has nothing to do with lots. -/
theorem taped_aside {p : Port} (hp : p.isAside = true) (w : World Tape) : SameLots w (taped p w).2 := by
  cases ha : p.addressee with
  | supply =>
    rw [taped, World.answerWith_supply ha]
    exact ⟨Tape.answer_ids hp _, rfl, rfl⟩
  | archive =>
    rw [taped, World.answerWith_archive ha]
    exact ⟨rfl, Archive.answer_origins hp _, rfl⟩
  | storage =>
    rw [taped, World.answerWith_storage ha]
    exact ⟨rfl, rfl, Storage.answer_aside hp _⟩

/-! ## Answers to the questions about lots -/

section Answers

variable {t : Tape} {a : Archive} {b : BucketStore} {s : Storage}

/-- Storing an object succeeds or fails. -/
theorem taped_putObject (key contentType : String) (data : Bytes) :
    (∃ c, taped (.putObject key contentType data) ⟨t, a, .bucket b⟩ = (.ok (), ⟨t, a, .bucket { b with
      calls := b.calls ++ [c]
      objects := BucketStore.without key b.objects ++ [(key, data)] }⟩)) ∨
    (∃ f c, taped (.putObject key contentType data) ⟨t, a, .bucket b⟩ =
      (.error f, ⟨t, a, .bucket { b with calls := b.calls ++ [c] }⟩)) := by
  have hanswer : taped (.putObject key contentType data) ⟨t, a, .bucket b⟩ =
    ((b.put key contentType data).1, ⟨t, a, .bucket (b.put key contentType data).2⟩) := rfl
  rw [hanswer]
  rcases b.call_cases (.put key data.length contentType) (fun objects =>
    BucketStore.without key objects ++ [(key, data)]) with hput | ⟨⟨f, hput⟩, -⟩
  · refine .inl ⟨.put key data.length contentType, ?_⟩
    rw [BucketStore.put, hput]
    rfl
  · refine .inr ⟨f, .put key data.length contentType, ?_⟩
    rw [BucketStore.put, hput]
    rfl

/-- Removing an object succeeds, or fails and is known to have failed. -/
theorem taped_removeObject (key : String) :
    (∃ c, taped (.removeObject key) ⟨t, a, .bucket b⟩ = (.ok (), ⟨t, a, .bucket { b with
      calls := b.calls ++ [c]
      objects := BucketStore.without key b.objects }⟩)) ∨
    (∃ f b', taped (.removeObject key) ⟨t, a, .bucket b⟩ = (.error f, ⟨t, a, .bucket b'⟩) ∧
      b' = { b with calls := b.calls ++ [.delete key] } ∧ b'.FailedToRemove key) := by
  have hanswer : taped (.removeObject key) ⟨t, a, .bucket b⟩ =
    ((b.remove key).1, ⟨t, a, .bucket (b.remove key).2⟩) := rfl
  rw [hanswer]
  rcases b.call_cases (.delete key) (BucketStore.without key) with hremove | ⟨⟨f, hremove⟩, hfault⟩
  · refine .inl ⟨.delete key, ?_⟩
    rw [BucketStore.remove, hremove]
    rfl
  · refine .inr ⟨f, { b with calls := b.calls ++ [.delete key] }, ?_, rfl, b.calls.length, by simp, hfault⟩
    rw [BucketStore.remove, hremove]
    rfl

/-- Saving a photo puts its row among the rows or fails. -/
theorem taped_savePhoto (p : Photo) :
    (∃ q a', taped (.savePhoto p) ⟨t, a, s⟩ = (.ok q, ⟨t, a', s⟩) ∧
      a'.photos = upsert PhotoRow.id (.ofEntity p) a.photos) ∨
    (∃ f, taped (.savePhoto p) ⟨t, a, s⟩ = (.error f, ⟨t, a, s⟩)) := by
  have hanswer : taped (.savePhoto p) ⟨t, a, s⟩ =
    ((Archive.answer (.savePhoto p) a).1, ⟨t, (Archive.answer (.savePhoto p) a).2, s⟩) := rfl
  rw [hanswer]
  rcases h : Archive.answer (.savePhoto p) a with ⟨f | q, a'⟩
  · rw [Archive.answer_error h]
    exact .inr ⟨f, rfl⟩
  · obtain ⟨hsave, -⟩ := Archive.write_ok h
    obtain ⟨ha', -, -⟩ := Archive.savePhoto_ok (Archive.storePhoto_eq_ok_iff.1 hsave)
    exact .inl ⟨q, a', rfl, by rw [ha']⟩

/-- Deleting a photo deletes its row or fails. -/
theorem taped_deletePhoto (id : Uuid) :
    (∃ a', taped (.deletePhoto id) ⟨t, a, s⟩ = (.ok (), ⟨t, a', s⟩) ∧
      a'.photos = a.photos.filter fun r => r.id != id) ∨
    (∃ f, taped (.deletePhoto id) ⟨t, a, s⟩ = (.error f, ⟨t, a, s⟩)) := by
  have hanswer : taped (.deletePhoto id) ⟨t, a, s⟩ =
    ((Archive.answer (.deletePhoto id) a).1, ⟨t, (Archive.answer (.deletePhoto id) a).2, s⟩) := rfl
  rw [hanswer]
  rcases h : Archive.answer (.deletePhoto id) a with ⟨f | q, a'⟩
  · rw [Archive.answer_error h]
    exact .inr ⟨f, rfl⟩
  · obtain ⟨hdelete, -⟩ := Archive.write_ok h
    exact .inl ⟨a', rfl, by rw [Archive.deletePhoto_ok hdelete]⟩

end Answers

/-! ## Steps -/

/-- A step asks one question. -/
theorem Program.step_ask {α σ : Type} {h : Handler σ} {p : Port} {next : Except Failure p.Answer → Program α}
    {r : Except Failure p.Answer} {s s' : σ} (hanswer : h p s = (r, s')) : (ask p next).step h s = (next r, s') := by
  rw [step, hanswer]

/-- What a careful program does at its next question. -/
theorem Program.Careful.step {α : Type} {T : Prop} {Q : α → List Uuid → List Lot → Option Lot → Prop} {x x' : Program α}
    {ls : List Lot} {task : Task} {t : Tape} {a : Archive} {b : BucketStore} {w : World Tape}
    (hx : Careful T Q t.ids task.todo task.stage x) (hrows : ∀ r ∈ a.photos, ∃ l ∈ ls, r.origin = l.origin)
    (h : x.step taped ⟨t, a, .bucket b⟩ = (x', w)) :
    ∃ (task' : Task) (b' : BucketStore), w.storage = .bucket b' ∧ Careful T Q w.supply.ids task'.todo task'.stage x' ∧
      Move ls task (.of a b) task' (.of w.archive b') := by
  obtain ⟨todo, stage⟩ := task
  generalize hids : t.ids = ids at hx
  cases hx with
  | done hq =>
    cases h
    exact ⟨⟨todo, _⟩, b, rfl, hids ▸ .done hq, .still⟩
  | failed =>
    cases h
    exact ⟨⟨todo, _⟩, b, rfl, .failed, .still⟩
  | @aside _ _ seen p next hp hnext =>
    rcases haside : taped p ⟨t, a, .bucket b⟩ with ⟨r, w'⟩
    obtain ⟨rfl, rfl⟩ := Prod.mk.inj ((step_ask haside).symm.trans h)
    have hsame := taped_aside hp ⟨t, a, .bucket b⟩
    rw [haside] at hsame
    obtain ⟨hids', horigins, hstorage⟩ := hsame
    refine ⟨⟨todo, .calm seen⟩, b, hstorage, ?_, ?_⟩
    · rw [hids', hids]
      exact hnext _
    · rw [Stock.of, Stock.of, horigins]
      exact .still
  | takeId hf hu =>
    rcases t with ⟨ms, _ | ⟨u, us⟩⟩
    · obtain ⟨rfl, rfl⟩ := Prod.mk.inj h
      exact ⟨⟨todo, _⟩, b, rfl, hids ▸ hf _, .still⟩
    · obtain ⟨rfl, rfl⟩ := Prod.mk.inj h
      exact ⟨⟨todo, _⟩, b, rfl, hu u us hids.symm, .still⟩
  | @findPhoto _ _ seen id next hf hn hs =>
    obtain ⟨rfl, rfl⟩ := Prod.mk.inj h
    change ∃ (task' : Task) (b' : BucketStore), Storage.bucket b = .bucket b' ∧
      Careful T Q t.ids task'.todo task'.stage (next (.ok ((a.photo? id).map PhotoRow.entity))) ∧ _
    rcases hfind : a.photo? id with _ | r
    · exact ⟨⟨todo, _⟩, b, rfl, hids ▸ hn, .still⟩
    · have hr : r ∈ a.photos := List.mem_of_find?_eq_some hfind
      obtain ⟨l, hls, hl⟩ := hrows r hr
      refine ⟨⟨todo, _⟩, b, rfl, hids ▸ hs r.entity l (congrArg Origin.id hl) (congrArg Origin.key hl), .find hls ?_⟩
      exact hl ▸ List.mem_map_of_mem hr
  | @putObject _ _ seen l contentType next hf hu =>
    rcases taped_putObject l.key contentType l.file.data with ⟨c, hput⟩ | ⟨f, c, hput⟩
    · obtain ⟨rfl, rfl⟩ := Prod.mk.inj ((step_ask hput).symm.trans h)
      exact ⟨⟨_, _⟩, _, rfl, hids ▸ hu, .put⟩
    · obtain ⟨rfl, rfl⟩ := Prod.mk.inj ((step_ask hput).symm.trans h)
      exact ⟨⟨_, _⟩, _, rfl, hids ▸ hf f, .putFailed⟩
  | @savePhoto _ _ l p next hT horigin hf hs =>
    rcases taped_savePhoto p with ⟨q, a', hsave, ha'⟩ | ⟨f, hsave⟩
    · obtain ⟨rfl, rfl⟩ := Prod.mk.inj ((step_ask hsave).symm.trans h)
      refine ⟨⟨todo, _⟩, _, rfl, hids ▸ hs q, .save fun r => ?_⟩
      have hid : (PhotoRow.ofEntity p).id = l.id := congrArg Origin.id horigin
      rw [ha', mem_origins_upsert, horigin, hid]
    · obtain ⟨rfl, rfl⟩ := Prod.mk.inj ((step_ask hsave).symm.trans h)
      exact ⟨⟨todo, _⟩, _, rfl, hids ▸ hf f, .saveFailed⟩
  | @deletePhoto _ _ l next hf hu =>
    rcases taped_deletePhoto l.id with ⟨a', hdelete, ha'⟩ | ⟨f, hdelete⟩
    · obtain ⟨rfl, rfl⟩ := Prod.mk.inj ((step_ask hdelete).symm.trans h)
      refine ⟨⟨todo, _⟩, _, rfl, hids ▸ hu, .delete fun r => ?_⟩
      rw [ha', mem_origins_delete]
    · obtain ⟨rfl, rfl⟩ := Prod.mk.inj ((step_ask hdelete).symm.trans h)
      exact ⟨⟨todo, _⟩, _, rfl, hids ▸ hf f, .deleteFailed⟩
  | @removeObject _ _ l next hT hr =>
    rcases taped_removeObject l.key with ⟨c, hremove⟩ | ⟨f, b', hremove, hb', hfailed⟩
    · obtain ⟨rfl, rfl⟩ := Prod.mk.inj ((step_ask hremove).symm.trans h)
      exact ⟨⟨todo, _⟩, _, rfl, hids ▸ hr _, .remove⟩
    · obtain ⟨rfl, rfl⟩ := Prod.mk.inj ((step_ask hremove).symm.trans h)
      exact ⟨⟨todo, _⟩, _, rfl, hids ▸ hr _, .removeFailed hb' hfailed⟩

end RaceAlbum
