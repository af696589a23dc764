import RaceAlbum.Proofs.Archive.Search
import RaceAlbum.Proofs.Http.Answers
import RaceAlbum.Proofs.Http.Routing
import RaceAlbum.Proofs.Schema.Accepted
import RaceAlbum.Proofs.Service.Session

/-!
# Requests for lists

A request for a list whose parameters were accepted is answered with its page of the list, if 64 bits can count the items
before the page and universal time does not move a bound out of the calendar. If not, it ends in a failure that no one
foresaw, though nothing is wrong with its parameters (`list_request_answered`).
-/

namespace RaceAlbum

open Program

/-! ## What was accepted -/

/-- A value of the query is the one that stands for a missing one, or it was read from the text that is given. -/
theorem Request.queryValue_ok {α : Type} {r : Request} {name : String} {reader : Reader α} {missing a : α}
    (h : r.queryValue name reader missing = .ok a) : a = missing ∨ ∃ v, reader v = .ok a := by
  unfold queryValue at h
  split at h
  · cases h
    exact .inl rfl
  · exact .inr ⟨_, Checked.under_eq_ok_iff.1 (Checked.under_eq_ok_iff.1 h)⟩

/-- An integer with a least value is no less than it. -/
theorem Reader.boundedInteger_least {least n : Int} {v : Value} (h : boundedInteger least none v = .ok n) : least ≤ n := by
  obtain ⟨k, -, h⟩ := Checked.andThen_eq_ok_iff.1 h
  dsimp only at h
  split at h
  · cases h
  · cases h
    exact Int.not_lt.1 ‹_›

/-- The settings have as many items on a page as a request may ask for. -/
def Settings.HasPageSize (s : Settings) : Prop := 1 ≤ s.pageSize ∧ s.pageSize ≤ Settings.pageSizeMax

/-- A page that was accepted is one from the first on, and it has between one and a hundred items. -/
theorem Request.page_ok {r : Request} {s : Settings} {p : Page} (hs : s.HasPageSize) (h : r.page s = .ok p) :
    1 ≤ p.number ∧ 1 ≤ p.limit ∧ p.limit ≤ 100 := by
  obtain ⟨f, limit, hf, hlimit, rfl⟩ := Checked.seq_eq_ok_iff.1 h
  obtain ⟨number, hnumber, rfl⟩ := Checked.map_eq_ok_iff.1 hf
  have hnumber : 1 ≤ number := by
    rcases queryValue_ok hnumber with rfl | ⟨v, hv⟩
    · decide
    · exact Reader.boundedInteger_least hv
  have hlimit : 1 ≤ limit ∧ limit ≤ Settings.pageSizeMax := by
    rcases queryValue_ok hlimit with rfl | ⟨v, hv⟩
    · exact hs
    · exact Reader.boundedInteger_ok hv
  exact ⟨hnumber, hlimit⟩

/-! ## Lists and their pages -/

/-- What a request for a list asks for. -/
inductive ListQuery where
  | events
  | photos (eventId : Uuid)
  | search (filters : PhotoFilters)

namespace ListQuery

/-- The bounds of a search can be moved to universal time; other lists have none. -/
def Convertible : ListQuery → Prop
  | search filters => filters.Convertible
  | _ => True

/-- The photos that match filters, in the order of the list, as data. -/
def photosData (a : Archive) (f : PhotoFilters) : List Value :=
  ((a.photos.filter fun r => r.Matches a f).mergeSort Archive.photoBefore).map fun r =>
    PhotoListItem.form.value r.listItem

/-- The whole list, as data. -/
def data (a : Archive) : ListQuery → List Value
  | events => a.listedEvents.map fun r => EventListItem.form.value r.listItem
  | photos id => photosData a ⟨some id, none, none, none, none⟩
  | search filters => photosData a filters

/-- A page of the list, as data. -/
def page (a : Archive) (p : Page) : ListQuery → Except Failure (List Value)
  | events => (a.eventPage p).map (List.map EventListItem.form.value)
  | photos id => (a.photoPage id p).map (List.map PhotoListItem.form.value)
  | search filters => (a.searchPage filters p).map (List.map PhotoListItem.form.value)

end ListQuery

/-- A request asks for a page of a list: its path below the root, and the parameters that were accepted. -/
inductive Request.AsksFor (s : Settings) (r : Request) : ListQuery → Page → Prop
  | events {p : Page} : r.path = s.apiRoot ++ "/events" → r.page s = .ok p → AsksFor s r .events p
  | photos {text : String} {id : Uuid} {p : Page} : r.path = s.apiRoot ++ ("/events/" ++ text ++ "/photos") →
      Uuid.ofText text = .ok id → r.page s = .ok p → AsksFor s r (.photos id) p
  | search {filters : PhotoFilters} {p : Page} : r.path = s.apiRoot ++ "/photos/search" →
      r.filters = .ok filters → r.page s = .ok p → AsksFor s r (.search filters) p

theorem Request.AsksFor.page_eq {s : Settings} {r : Request} {q : ListQuery} {p : Page} (h : r.AsksFor s q p) :
    r.page s = .ok p := by
  cases h with
  | events _ hp => exact hp
  | photos _ _ hp => exact hp
  | search _ _ hp => exact hp

namespace Archive

variable {a : Archive} {p : Page}

/-- The page of a list is there if 64 bits can count the items before it. -/
theorem pageOf_of_fits {α : Type} {xs : List α} (hlimit : 1 ≤ p.limit ∧ p.limit ≤ 100) (hskip : isInt64 p.skip = true) :
    pageOf p xs = .ok ((xs.drop p.skip.toNat).take p.limit.toNat) := by
  have htake : isInt64 p.take = true := isInt64_iff.2 (by unfold Page.take; omega)
  have hnot : ¬p.take < 0 := by
    unfold Page.take
    omega
  unfold pageOf Page.items Page.slice
  rw [htake, hskip]
  simp only [Bool.and_self, if_true, if_neg hnot]
  rfl

/-- The page of a list is not there if 64 bits cannot count the items before it. -/
theorem pageOf_of_overflow {α : Type} {xs : List α} (hskip : isInt64 p.skip = false) :
    pageOf p xs = .error .integerOverflow := by
  simp [pageOf, hskip]

/-- A bound that cannot be moved to universal time is refused. -/
theorem searchBound?_error {b? : Option Stamp} (h : ¬∀ s ∈ b?, s.utc?.isSome = true) :
    searchBound? b? = .error .dateOverflow := by
  cases b? with
  | none => exact absurd (fun s hs => by cases hs) h
  | some s =>
    have hnone : s.utc? = none := by
      rw [← Option.not_isSome_iff_eq_none]
      exact fun hs => h fun t ht => Option.mem_some_iff.1 ht ▸ hs
    simp [searchBound?, searchBound, hnone, Except.map]

/-- Filters with a bound that cannot be moved to universal time are refused. -/
theorem ofFilters_error {f : PhotoFilters} (h : ¬f.Convertible) : Search.ofFilters f = .error .dateOverflow := by
  unfold Search.ofFilters
  by_cases hfrom : ∀ s ∈ f.fromDate, s.utc?.isSome = true
  · obtain ⟨m?, hm, -⟩ := searchBound?_ok hfrom
    rw [hm, searchBound?_error fun hto => h ⟨hfrom, hto⟩]
    rfl
  · rw [searchBound?_error hfrom]
    rfl

/-- What a search lists is what its filters ask for, as data. -/
theorem photosData_eq {f : PhotoFilters} (hf : f.Convertible) : ∃ s, Search.ofFilters f = .ok s ∧
    (a.matching s).map (fun r => PhotoListItem.form.value r.listItem) = ListQuery.photosData a f := by
  obtain ⟨s, hs, he, hst, hn, hlo, hhi⟩ := ofFilters_ok hf
  have hmatch : a.isMatch s = fun r => decide (r.Matches a f) := by
    funext r
    rw [Bool.eq_iff_iff, isMatch_iff he hst hn hlo hhi, decide_eq_true_iff]
  refine ⟨s, hs, ?_⟩
  rw [ListQuery.photosData, matching, hmatch]

end Archive

namespace ListQuery

variable {a : Archive} {p : Page} {q : ListQuery}

/-- The photos of an event are what a search for the event alone lists. -/
theorem photosPage_eq (id : Uuid) : (photos id).page a p = (search ⟨some id, none, none, none, none⟩).page a p := by
  rw [page, page, Archive.photoPage_eq]

theorem convertible_of_event (id : Uuid) : PhotoFilters.Convertible ⟨some id, none, none, none, none⟩ :=
  ⟨fun _ h => (Option.not_mem_none _ h).elim, fun _ h => (Option.not_mem_none _ h).elim⟩

/-- The page of a search that can be asked for. -/
theorem searchPage_of_fits {f : PhotoFilters} (hf : f.Convertible) (hlimit : 1 ≤ p.limit ∧ p.limit ≤ 100)
    (hskip : isInt64 p.skip = true) :
    (search f).page a p = .ok (((photosData a f).drop p.skip.toNat).take p.limit.toNat) := by
  obtain ⟨s, hs, hdata⟩ := Archive.photosData_eq (a := a) hf
  rw [page, Archive.searchPage_eq hs, ← hdata]
  dsimp only
  rw [Archive.pageOf_of_fits hlimit hskip]
  simp [Except.map, List.map_take, List.map_drop, Function.comp_def]

/-- A page that can be asked for holds its part of the list. -/
theorem page_of_fits (hq : q.Convertible) (hlimit : 1 ≤ p.limit ∧ p.limit ≤ 100) (hskip : isInt64 p.skip = true) :
    q.page a p = .ok (((q.data a).drop p.skip.toNat).take p.limit.toNat) := by
  cases q with
  | events =>
    rw [page, Archive.eventPage, Archive.pageOf_of_fits hlimit hskip]
    simp [Except.map, data, List.map_take, List.map_drop, Function.comp_def]
  | photos id =>
    rw [photosPage_eq]
    exact searchPage_of_fits (convertible_of_event id) hlimit hskip
  | search f => exact searchPage_of_fits hq hlimit hskip

/-- The page of a search that cannot be asked for. -/
theorem searchPage_of_not_fits {f : PhotoFilters} (h : ¬(f.Convertible ∧ isInt64 p.skip = true)) :
    ∃ e, (search f).page a p = .error e ∧ Application.reportOf? e = none := by
  by_cases hf : f.Convertible
  · have hskip : isInt64 p.skip = false := Bool.eq_false_iff.2 fun hskip => h ⟨hf, hskip⟩
    obtain ⟨s, hs, -⟩ := Archive.photosData_eq (a := a) hf
    refine ⟨.integerOverflow, ?_, rfl⟩
    rw [page, Archive.searchPage_eq hs]
    dsimp only
    rw [Archive.pageOf_of_overflow hskip]
    rfl
  · refine ⟨.dateOverflow, ?_, rfl⟩
    rw [page, Archive.searchPage, Archive.ofFilters_error hf]
    rfl

/-- A page that cannot be asked for fails in a way that no one foresaw. -/
theorem page_of_not_fits (h : ¬(q.Convertible ∧ isInt64 p.skip = true)) :
    ∃ e, q.page a p = .error e ∧ Application.reportOf? e = none := by
  cases q with
  | events =>
    have hskip : isInt64 p.skip = false := Bool.eq_false_iff.2 fun hskip => h ⟨trivial, hskip⟩
    refine ⟨.integerOverflow, ?_, rfl⟩
    rw [page, Archive.eventPage, Archive.pageOf_of_overflow hskip]
    rfl
  | photos id =>
    rw [photosPage_eq]
    exact searchPage_of_not_fits fun hfit => h ⟨trivial, hfit.2⟩
  | search f => exact searchPage_of_not_fits h

end ListQuery

/-! ## Answers -/

/-- A question to the archive that changes nothing. -/
theorem run_read {p : Port} {w : World Tape} (hp : p.addressee = .archive) (hread : p.isWrite = false) :
    run taped (call p) w = ((Archive.answer p w.archive).1, w) := by
  rw [run_call, taped, World.answerWith_archive hp, Archive.answer_read hread]

/-- A list that is read from the archive is made into a reply. -/
theorem run_listed {α : Type} {x : Program (List α)} {answer : Except Failure (List α)} {w : World Tape} (f : Form α)
    (hx : run taped x w = (answer, w)) :
    run taped (x >>= fun items => pure (Route.listed (Route.listData f items))) w =
      ((answer.map (List.map f.value)).map fun items => Route.listed (.list items), w) := by
  cases answer with
  | error e => exact run_bind_of_error hx
  | ok items => exact (run_bind_of_ok hx).trans rfl

/-- The route of a list asks for its page and replies with it. -/
theorem Request.AsksFor.run_route {app : Application} {r : Request} {q : ListQuery} {p : Page} {w : World Tape}
    (hroot : '{' ∉ app.settings.apiRoot.toList) (hmethod : r.method = "GET") (h : r.AsksFor app.settings q p) :
    run taped (app.route r) w = ((q.page w.archive p).map fun items => Route.listed (.list items), w) := by
  cases h with
  | events hpath hp =>
    rw [Application.route_listEvents hroot hmethod hpath, Route.listEvents, Route.reading_ok hp]
    exact run_listed EventListItem.form (run_read rfl rfl)
  | photos hpath hid hp =>
    have hread : (Prod.mk <$> Route.eventId [(Route.eventPart, _)] <*> r.page app.settings) = .ok (_, p) :=
      Checked.seq_eq_ok_iff.2 ⟨_, _, Checked.map_eq_ok_iff.2 ⟨_, Request.pathId_of_ofText hid, rfl⟩, hp, rfl⟩
    rw [Application.route_listPhotos hroot hid hmethod hpath, Route.listPhotos, Route.reading_ok hread]
    exact run_listed PhotoListItem.form (run_read rfl rfl)
  | search hpath hf hp =>
    have hread : (Prod.mk <$> r.filters <*> r.page app.settings) = .ok (_, p) :=
      Checked.seq_eq_ok_iff.2 ⟨_, _, Checked.map_eq_ok_iff.2 ⟨_, hf, rfl⟩, hp, rfl⟩
    rw [Application.route_searchPhotos hroot hmethod hpath, Route.searchPhotos, Route.reading_ok hread]
    exact run_listed PhotoListItem.form (run_read rfl rfl)

/-- Every request for a list whose parameters were accepted is answered, and nothing is changed by it. Where 64 bits can count
the items before the page and the bounds of a search stay in the calendar in universal time, the answer is the page: the part
of the whole list that begins after the pages before it, with at most as many items as a page has, and without any if the
list ends before it. Everywhere else the answer is that the program is at fault. -/
theorem list_request_answered (app : Application) {r : Request} {q : ListQuery} {p : Page} {w : World Tape}
    (hroot : '{' ∉ app.settings.apiRoot.toList) (hsize : app.settings.HasPageSize) (hmethod : r.method = "GET")
    (hasks : r.AsksFor app.settings q p) (hholds : w.supply.Holds 1 1) :
    ∃ requestId now answer w', run taped (app.respond r) w = (.ok answer, w') ∧ w'.archive = w.archive ∧
      w'.storage = w.storage ∧
      (q.Convertible ∧ isInt64 p.skip = true →
        let items := ((q.data w.archive).drop p.skip.toNat).take p.limit.toNat
        answer = app.answer r requestId 200
          (.json (envelope (.list items) requestId now (some "success.LIST")).wire) ∧
        (items.length : Int) ≤ p.limit ∧ (((q.data w.archive).length : Int) ≤ p.skip → items = [])) ∧
      (¬(q.Convertible ∧ isInt64 p.skip = true) → answer.status = 500) := by
  obtain ⟨-, hlimit⟩ := Request.page_ok hsize hasks.page_eq
  obtain ⟨requestId, w₁, ms, us, hrequestId, hleft, hdrew⟩ := Application.requestId_run (m := 1) (n := 0) r hholds
  obtain ⟨now, w₂, hclock, hrows, hobjects⟩ := readClock_run hleft
  have hroute := hasks.run_route (w := w₁) hroot hmethod
  have hoptions : r.method ≠ "OPTIONS" := by simp [hmethod]
  have hhead : r.method ≠ "HEAD" := by simp [hmethod]
  rw [hdrew.archive] at hroute
  have hrows : w₂.archive = w.archive := hrows.trans hdrew.archive
  have hobjects : w₂.storage = w.storage := hobjects.trans hdrew.storage
  by_cases hfits : q.Convertible ∧ isInt64 p.skip = true
  · rw [ListQuery.page_of_fits hfits.1 hlimit hfits.2] at hroute
    refine ⟨requestId, now.wall, _, w₂, Application.respond_of_wrapped hrequestId hoptions hhead hroute hclock, hrows,
      hobjects, fun _ => ⟨rfl, ?_, fun hend => ?_⟩, fun h => absurd hfits h⟩
    · have hlength := List.length_take_le p.limit.toNat ((q.data w.archive).drop p.skip.toNat)
      omega
    · rw [List.drop_eq_nil_of_le (by omega), List.take_nil]
  · obtain ⟨f, hpage, hunforeseen⟩ := ListQuery.page_of_not_fits (a := w.archive) hfits
    rw [hpage] at hroute
    exact ⟨requestId, now.wall, _, w₂,
      Application.respond_of_unforeseen hrequestId hoptions hhead hroute hunforeseen hclock, hrows, hobjects,
      fun h => absurd h hfits, fun _ => rfl⟩

/-- A request for a list with parameters. -/
def listRequest (path : String) (query : List (String × String)) : Request := ⟨"GET", path, query, [], []⟩

/-- Photos up to the last year, one on a page. -/
def lastPhotos : Request :=
  listRequest "/api/v1/photos/search" [("toDate", "9999-12-31T00:00:00+01:00"), ("limit", "1")]

/-- What the request filters by. -/
def lastFilters : PhotoFilters :=
  ⟨none, none, none, none, some ⟨⟨.last, .ofParts 0 0 0 0⟩, Offset.of? 3600⟩⟩

/-- The only photo of a small session is on the first page. -/
theorem lastPhotos_answered :
    let w := (session taped (smallSession.take 2) ⟨smallTape, .empty, smallStorage⟩).2
    ∃ requestId now item answer w', run taped (Application.respond ⟨.default, []⟩ lastPhotos) w = (.ok answer, w') ∧
      answer.status = 200 ∧ answer.body = .json (envelope (.list [item]) requestId now (some "success.LIST")).wire := by
  intro w
  have hasks : lastPhotos.AsksFor .default (.search lastFilters) ⟨1, 1⟩ :=
    .search (by decide) (Checked.eq_ok_of_gives (by decide +kernel)) (Checked.eq_ok_of_gives (by decide +kernel))
  obtain ⟨requestId, now, answer, w', hrun, -, -, hanswer, -⟩ :=
    list_request_answered ⟨.default, []⟩ (w := w) (by decide) ⟨by decide, by decide⟩ rfl hasks (by decide +kernel)
  obtain ⟨rfl, -, -⟩ := hanswer ⟨⟨by decide +kernel, by decide +kernel⟩, by decide⟩
  have hone : (ListQuery.data w.archive (.search lastFilters)).length = 1 := by decide +kernel
  obtain ⟨item, hitem⟩ := List.length_eq_one_iff.1 hone
  refine ⟨requestId, now, item, _, w', hrun, rfl, ?_⟩
  rw [hitem]
  rfl

/-- A page so far that 64 bits cannot count the items before it. -/
def farPage : Request := listRequest "/api/v1/events" [("page", "9223372036854775807"), ("limit", "100")]

/-- A search from the first moment of the calendar as the clocks of an offset of one hour show it. -/
def earlyBound : Request := listRequest "/api/v1/photos/search" [("fromDate", "0001-01-01T00:00:00+01:00")]

/-- What the search filters by. -/
def earlyFilters : PhotoFilters :=
  ⟨none, none, none, some ⟨⟨.first, .ofParts 0 0 0 0⟩, Offset.of? 3600⟩, none⟩

/-- The status of the answer to a request while there are no rows. -/
def statusWhenEmpty (r : Request) : Option Int :=
  match run taped (Application.respond ⟨.default, []⟩ r) ⟨smallTape, .empty, smallStorage⟩ with
  | (.ok a, _) => some a.status
  | _ => none

/-- Both requests are accepted, and neither of them is answered with a page. -/
theorem accepted_lists_fail :
    (∃ p, farPage.AsksFor .default .events p) ∧ statusWhenEmpty farPage = some 500 ∧
    (∃ f p, earlyBound.AsksFor .default (.search f) p) ∧ statusWhenEmpty earlyBound = some 500 := by
  have hfar : farPage.AsksFor .default .events ⟨9223372036854775807, 100⟩ :=
    .events (by decide) (Checked.eq_ok_of_gives (by decide +kernel))
  have hearly : earlyBound.AsksFor .default (.search earlyFilters) ⟨1, 20⟩ :=
    .search (by decide) (Checked.eq_ok_of_gives (by decide +kernel)) (Checked.eq_ok_of_gives (by decide +kernel))
  exact ⟨⟨_, hfar⟩, by decide +kernel, ⟨_, _, hearly⟩, by decide +kernel⟩

end RaceAlbum
