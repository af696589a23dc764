import Mathlib.Data.List.TakeWhile
import RaceAlbum.Http.Application
import RaceAlbum.Proofs.Storage.Places

/-!
# How paths find their routes

A pattern below a root is the pattern with the root in front of its fixed characters (`Pattern.read_held`), so a path below
the root fits it as the rest of the path fits the pattern alone. The first route of a method whose pattern fits serves a
request (`Route.find_of_first`). From this it is known which route serves the paths of identifiers that can be read.
-/

namespace RaceAlbum

/-! ## Patterns below a root -/

namespace Pattern

/-- Fixed characters that were read before stand in front of those that are read next. -/
theorem read_held (fuel : Nat) (cs : List Char) :
    ∃ w pattern, ∀ held, read fuel held cs = .fixed (held.reverse ++ w) :: pattern := by
  induction fuel generalizing cs with
  | zero => exact ⟨[], [], fun held => by simp [read]⟩
  | succ fuel ih =>
    cases cs with
    | nil => exact ⟨[], [], fun held => by simp [read]⟩
    | cons c cs =>
      cases hname : if c = '{' then name? cs else none with
      | none =>
        obtain ⟨w, pattern, hread⟩ := ih cs
        refine ⟨c :: w, pattern, fun held => ?_⟩
        simp only [read, hname, hread, List.reverse_cons, List.append_assoc, List.singleton_append]
      | some part =>
        exact ⟨[], .part part.1 :: read fuel [] part.2, fun held => by simp [read, hname]⟩

/-- Characters that open no name are read as they are. -/
theorem read_append (fuel : Nat) {root : List Char} (hroot : '{' ∉ root) (held cs : List Char) :
    read (root.length + fuel) held (root ++ cs) = read fuel (root.reverse ++ held) cs := by
  induction root generalizing held with
  | nil => simp
  | cons c root ih =>
    have hc : '{' ≠ c := List.ne_of_not_mem_cons hroot
    have hroot : '{' ∉ root := List.not_mem_of_not_mem_cons hroot
    rw [List.length_cons, Nat.succ_add, List.cons_append, read, if_neg (Ne.symm hc)]
    simp [ih hroot]

/-- Characters in front of a path that are fixed in front of a pattern as well do not matter. -/
theorem parts?_fixed_append (w w' cs : List Char) (pattern : Pattern) :
    parts? (.fixed (w ++ w') :: pattern) (w ++ cs) = parts? (.fixed w' :: pattern) cs := by
  simp [parts?, List.drop_length_add_append, List.prefix_append_right_inj]

/-- A fixed part of a pattern fits its own characters. -/
@[simp] theorem parts?_fixed (w cs : List Char) (pattern : Pattern) :
    parts? (.fixed w :: pattern) (w ++ cs) = parts? pattern cs := by
  simp [parts?]

/-- A path below a root fits a pattern below the root as the rest of it fits the rest of the pattern. -/
theorem parts?_below {root : String} (hroot : '{' ∉ root.toList) (path : String) (cs : List Char) :
    parts? (ofPath (root ++ path)) (root.toList ++ cs) = parts? (ofPath path) cs := by
  obtain ⟨w, pattern, hread⟩ := read_held path.length path.toList
  have hbelow : ofPath (root ++ path) = .fixed (root.toList ++ w) :: pattern := by
    unfold ofPath
    rw [String.length_append, String.toList_append, ← String.length_toList, read_append _ hroot, hread]
    simp
  rw [hbelow, parts?_fixed_append, ofPath, hread]
  rfl

/-! ## Parts of a path -/

/-- A part of a path ends before a slash. -/
theorem partLength_append_slash {step : List Char} (hstep : '/' ∉ step) (cs : List Char) :
    partLength (step ++ '/' :: cs) = step.length := by
  have hall : ∀ c ∈ step, (c != '/') = true := fun c hc => bne_iff_ne.2 (ne_of_mem_of_not_mem hc hstep)
  simp [partLength, List.takeWhile_append_of_pos hall]

/-- A step of a path that is followed by what fits the rest of a pattern is a part. -/
theorem parts?_part {name : String} {pattern : Pattern} {step cs : List Char} {parts : Request.Parts}
    (hempty : step ≠ []) (hstep : '/' ∉ step) (hrest : parts? pattern ('/' :: cs) = some parts) :
    parts? (.part name :: pattern) (step ++ '/' :: cs) = some ((name, String.ofList step) :: parts) := by
  obtain ⟨n, hn⟩ : ∃ n, step.length = n + 1 := Nat.exists_eq_succ_of_ne_zero (by simpa using hempty)
  rw [parts?, partLength_append_slash hstep, hn, List.range_succ, List.reverse_append]
  simp [← hn, hrest]

/-- A last step of a path is a part as a whole. -/
theorem parts?_part_last (name : String) {step : List Char} (hempty : step ≠ []) (hslash : '/' ∉ step) :
    parts? [.part name, .fixed []] step = some [(name, String.ofList step)] := by
  have hall : ∀ c ∈ step, (c != '/') = true := fun c hc => bne_iff_ne.2 (ne_of_mem_of_not_mem hc hslash)
  have hlength : partLength step = step.length := by rw [partLength, List.takeWhile_eq_self_iff.2 hall]
  obtain ⟨n, hn⟩ : ∃ n, step.length = n + 1 := Nat.exists_eq_succ_of_ne_zero (by simpa using hempty)
  rw [parts?, hlength, hn, List.range_succ, List.reverse_append]
  simp [← hn, parts?]

/-- Nothing that has a slash in it follows a part at the end of a path. -/
theorem parts?_part_end (name : String) {step : List Char} (hstep : '/' ∉ step) (cs : List Char) :
    parts? [.part name, .fixed []] (step ++ '/' :: cs) = none := by
  rw [parts?, partLength_append_slash hstep, List.findSome?_eq_none_iff]
  intro n hn
  have hn : n < step.length := by simpa using hn
  have hdrop : (step ++ '/' :: cs).drop (n + 1) = step.drop (n + 1) ++ '/' :: cs := List.drop_append_of_le_length hn
  have hslash : '/' ∈ step.drop (n + 1) ++ '/' :: cs := by simp
  have hnil : step.drop (n + 1) ++ '/' :: cs ≠ [] := List.ne_nil_of_mem hslash
  have hline : step.drop (n + 1) ++ '/' :: cs ≠ ['\n'] := fun h => by
    rw [h] at hslash
    exact absurd hslash (by decide)
  simp [hdrop, parts?, hnil, hline]

end Pattern

/-! ## Texts of identifiers -/

namespace Uuid

/-- The digits of an identifier, with or without hyphens, are some, and no slash is among them. -/
theorem no_slash_of_ofPlain? {cs : List Char} {u : Uuid} (h : ofPlain? cs = some u) : cs ≠ [] ∧ '/' ∉ cs := by
  dsimp only [ofPlain?] at h
  split at h
  · rename_i hcs
    simp only [Bool.and_eq_true, List.all_eq_true] at hcs
    obtain ⟨⟨hhex, hlength⟩, -⟩ := hcs
    constructor
    · rintro rfl
      exact absurd hlength (by decide)
    · intro hslash
      have hjoined : ['-'].intercalate (splitHyphens cs) = cs := List.intercalate_splitOn '-'
      rw [← hjoined] at hslash
      rcases mem_of_mem_intercalate hslash with hyphen | hdigit
      · exact absurd hyphen (by decide)
      · exact absurd (hhex _ hdigit) (by decide)
  · cases h

/-- Around an identifier there are only braces or the words that introduce it. -/
theorem mem_of_unwrap {c : Char} {cs : List Char} (h : c ∈ cs) :
    c ∈ (unwrap cs).1 ∨ c ∈ '{' :: '}' :: nameMark := by
  unfold unwrap
  split
  · exact .inl h
  split
  · exact .inl h
  split
  · rename_i hbraces
    obtain ⟨hfirst, hlast, -⟩ := hbraces
    obtain ⟨rest, rfl⟩ := List.head?_eq_some_iff.1 hfirst
    rcases List.mem_cons.1 h with rfl | h
    · exact .inr (by simp)
    · have hrest : rest ≠ [] := List.ne_nil_of_mem h
      have hlast : rest.getLast hrest = '}' := by
        rw [List.getLast?_cons_of_ne_nil hrest, List.getLast?_eq_some_getLast hrest] at hlast
        exact Option.some.inj hlast
      rw [← List.dropLast_concat_getLast hrest, List.mem_append, hlast] at h
      rcases h with hbody | hend
      · exact .inl (by simpa using hbody)
      · exact .inr (by simp [List.mem_singleton.1 hend])
  split
  · rename_i hmark
    rw [← List.take_append_drop 9 cs, List.mem_append, hmark] at h
    exact h.symm.imp_right fun hmark => by simp [hmark]
  · exact .inl h

/-- A text that an identifier is read from is not empty, and no slash is in it. -/
theorem no_slash_of_ofText {s : String} {u : Uuid} (h : ofText s = .ok u) : s.toList ≠ [] ∧ '/' ∉ s.toList := by
  have hplain : ∃ u, ofPlain? (unwrap s.toList).1 = some u := by
    dsimp only [ofText] at h
    split at h
    · exact ⟨_, ‹_›⟩
    · cases h
  obtain ⟨u, hplain⟩ := hplain
  obtain ⟨hempty, hslash⟩ := no_slash_of_ofPlain? hplain
  constructor
  · intro hnil
    rw [hnil] at hempty
    exact hempty rfl
  · intro h
    rcases mem_of_unwrap h with hbody | haround
    · exact hslash hbody
    · exact absurd haround (by decide)

end Uuid

/-! ## The first route that fits -/

namespace Route

/-- The first route of a method that a path fits is found. -/
theorem find_of_first {routes before after : List Route} {route : Route} {path : String} {parts : Request.Parts}
    (hroutes : routes = before ++ route :: after) (hparts : route.pattern.parts? path.toList = some parts)
    (hbefore : ∀ q ∈ before.filter (·.method == route.method), q.pattern.parts? path.toList = none) :
    find routes route.method path = .route route parts := by
  let fits (r : Route) := (r.pattern.parts? path.toList).map fun parts => (r, parts)
  have hskipped : ((before.filterMap fits).find? fun (r, _) => r.method == route.method) = none := by
    rw [List.find?_eq_none]
    intro found hfound hmethod
    obtain ⟨q, hq, hfits⟩ := List.mem_filterMap.1 hfound
    obtain ⟨parts', hparts', rfl⟩ := Option.map_eq_some_iff.1 hfits
    rw [hbefore q (List.mem_filter.2 ⟨hq, hmethod⟩)] at hparts'
    cases hparts'
  have hfits : fits route = some (route, parts) := by simp only [fits, hparts, Option.map_some]
  have hfound : ((routes.filterMap fits).find? fun (r, _) => r.method == route.method) = some (route, parts) := by
    rw [hroutes, List.filterMap_append, List.find?_append, hskipped, Option.none_or, List.filterMap_cons_some hfits]
    exact List.find?_cons_of_pos (beq_self_eq_true _)
  unfold find
  simp only [fits] at hfound
  simp only [hfound]

end Route

/-! ## Which route serves a path -/

namespace Application

variable {app : Application} {r : Request} {text : String} {id : Uuid}

/-- A request below the root is served by the first route of its method whose pattern the rest of its path fits. -/
theorem route_below {after : List Route} {serve : Request → Request.Parts → Program Reply} {parts : Request.Parts}
    (before : List Route) (path : String) (others : List String) (rest : List Char)
    (hroot : '{' ∉ app.settings.apiRoot.toList) (hrest : r.path.toList = app.settings.apiRoot.toList ++ rest)
    (hroutes : app.routes = before ++ ⟨r.method, Pattern.ofPath (app.settings.apiRoot ++ path), serve⟩ :: after)
    (hothers : (before.filter (·.method == r.method)).map Route.pattern =
      others.map fun other => Pattern.ofPath (app.settings.apiRoot ++ other))
    (hparts : (Pattern.ofPath path).parts? rest = some parts)
    (hnone : ∀ other ∈ others, (Pattern.ofPath other).parts? rest = none) :
    app.route r = serve r parts := by
  have hfound : Route.find app.routes r.method r.path = .route
      ⟨r.method, Pattern.ofPath (app.settings.apiRoot ++ path), serve⟩ parts := by
    refine Route.find_of_first hroutes ?_ fun q hq => ?_
    · rw [hrest, Pattern.parts?_below hroot, hparts]
    · have hpattern := List.mem_map_of_mem (f := Route.pattern) hq
      rw [hothers] at hpattern
      obtain ⟨other, hother, hpattern⟩ := List.mem_map.1 hpattern
      rw [← hpattern, hrest, Pattern.parts?_below hroot, hnone other hother]
  rw [route, hfound]

/-- A request to classify a photo is served by the route for it. -/
theorem route_classifyPhoto (hroot : '{' ∉ app.settings.apiRoot.toList) (hid : Uuid.ofText text = .ok id)
    (hmethod : r.method = "PATCH") (hpath : r.path = app.settings.apiRoot ++ ("/photos/" ++ text ++ "/classify")) :
    app.route r = Route.classifyPhoto r [(Route.photoPart, text)] := by
  obtain ⟨hempty, hslash⟩ := Uuid.no_slash_of_ofText hid
  refine route_below ((Route.api app.settings).take 9) "/photos/\x7bphoto_id\x7d/classify" ["/events/\x7bevent_id\x7d"]
    ("/photos/".toList ++ (text.toList ++ '/' :: "classify".toList)) hroot (by simp [hpath]) (by rw [hmethod]; rfl)
    (by rw [hmethod]; rfl) ?_ ?_
  · change Pattern.parts? (.fixed "/photos/".toList :: .part Route.photoPart :: [.fixed "/classify".toList]) _ = _
    have hend : Pattern.parts? [.fixed "/classify".toList] ('/' :: "classify".toList) = some [] := rfl
    rw [Pattern.parts?_fixed, Pattern.parts?_part hempty hslash hend, String.ofList_toList]
  · exact List.forall_mem_singleton.2 rfl

/-- A request for the events is served by their route. -/
theorem route_listEvents (hroot : '{' ∉ app.settings.apiRoot.toList) (hmethod : r.method = "GET")
    (hpath : r.path = app.settings.apiRoot ++ "/events") : app.route r = Route.listEvents app.settings r [] :=
  route_below [] "/events" [] "/events".toList hroot (by simp [hpath]) (by rw [hmethod]; rfl) rfl rfl (by simp)

/-- So is a request to create one. -/
theorem route_createEvent (hroot : '{' ∉ app.settings.apiRoot.toList) (hmethod : r.method = "POST")
    (hpath : r.path = app.settings.apiRoot ++ "/events") : app.route r = Route.createEvent r [] :=
  route_below ((Route.api app.settings).take 1) "/events" [] "/events".toList hroot (by simp [hpath])
    (by rw [hmethod]; rfl) (by rw [hmethod]; rfl) rfl (by simp)

/-- So is a request to change one, whatever is put for its identifier. -/
theorem route_updateEvent (hroot : '{' ∉ app.settings.apiRoot.toList) (hempty : text.toList ≠ [])
    (hslash : '/' ∉ text.toList) (hmethod : r.method = "PATCH")
    (hpath : r.path = app.settings.apiRoot ++ ("/events/" ++ text)) :
    app.route r = Route.updateEvent r [(Route.eventPart, text)] := by
  refine route_below ((Route.api app.settings).take 3) "/events/\x7bevent_id\x7d" [] ("/events/".toList ++ text.toList)
    hroot (by simp [hpath]) (by rw [hmethod]; rfl) (by rw [hmethod]; rfl) ?_ (by simp)
  change Pattern.parts? (.fixed "/events/".toList :: .part Route.eventPart :: [.fixed []]) _ = _
  rw [Pattern.parts?_fixed, Pattern.parts?_part_last _ hempty hslash, String.ofList_toList]

/-- The path of the photos of an event names the event. -/
theorem parts?_eventPhotos (hempty : text.toList ≠ []) (hslash : '/' ∉ text.toList) :
    (Pattern.ofPath "/events/\x7bevent_id\x7d/photos").parts?
      ("/events/".toList ++ (text.toList ++ '/' :: "photos".toList)) = some [(Route.eventPart, text)] := by
  change Pattern.parts? (.fixed "/events/".toList :: .part Route.eventPart :: [.fixed "/photos".toList]) _ = _
  have hend : Pattern.parts? [.fixed "/photos".toList] ('/' :: "photos".toList) = some [] := rfl
  rw [Pattern.parts?_fixed, Pattern.parts?_part hempty hslash hend, String.ofList_toList]

/-- A request for the photos of an event is served by their route. -/
theorem route_listPhotos (hroot : '{' ∉ app.settings.apiRoot.toList) (hid : Uuid.ofText text = .ok id)
    (hmethod : r.method = "GET") (hpath : r.path = app.settings.apiRoot ++ ("/events/" ++ text ++ "/photos")) :
    app.route r = Route.listPhotos app.settings r [(Route.eventPart, text)] := by
  obtain ⟨hempty, hslash⟩ := Uuid.no_slash_of_ofText hid
  refine route_below ((Route.api app.settings).take 5) "/events/\x7bevent_id\x7d/photos"
    ["/events", "/events/\x7bevent_id\x7d"] ("/events/".toList ++ (text.toList ++ '/' :: "photos".toList)) hroot
    (by simp [hpath]) (by rw [hmethod]; rfl) (by rw [hmethod]; rfl) (parts?_eventPhotos hempty hslash) ?_
  refine List.forall_mem_cons.2 ⟨?_, List.forall_mem_singleton.2 ?_⟩
  · rfl
  · change Pattern.parts? (.fixed "/events/".toList :: .part Route.eventPart :: [.fixed []]) _ = _
    rw [Pattern.parts?_fixed, Pattern.parts?_part_end _ hslash]

/-- So is a request to upload photos, whatever is put for the identifier of the event. -/
theorem route_uploadPhotos (hroot : '{' ∉ app.settings.apiRoot.toList) (hempty : text.toList ≠ [])
    (hslash : '/' ∉ text.toList) (hmethod : r.method = "POST")
    (hpath : r.path = app.settings.apiRoot ++ ("/events/" ++ text ++ "/photos")) :
    app.route r = Route.uploadPhotos app.settings r [(Route.eventPart, text)] :=
  route_below ((Route.api app.settings).take 6) "/events/\x7bevent_id\x7d/photos" ["/events"]
    ("/events/".toList ++ (text.toList ++ '/' :: "photos".toList)) hroot (by simp [hpath]) (by rw [hmethod]; rfl)
    (by rw [hmethod]; rfl) (parts?_eventPhotos hempty hslash) (List.forall_mem_singleton.2 rfl)

/-- A search is served by its route, though the path of one photo would fit too. -/
theorem route_searchPhotos (hroot : '{' ∉ app.settings.apiRoot.toList) (hmethod : r.method = "GET")
    (hpath : r.path = app.settings.apiRoot ++ "/photos/search") :
    app.route r = Route.searchPhotos app.settings r [] :=
  route_below ((Route.api app.settings).take 7) "/photos/search"
    ["/events", "/events/\x7bevent_id\x7d", "/events/\x7bevent_id\x7d/photos"] "/photos/search".toList hroot
    (by simp [hpath]) (by rw [hmethod]; rfl) (by rw [hmethod]; rfl) rfl (by decide)

end Application

end RaceAlbum
