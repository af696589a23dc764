import RaceAlbum.Archive.Queries

/-!
# Reading page by page

Who reads a long list asks for one page after the other until a page is empty; `ReadsAll` says what is read in this way. As
long as 64 bits can count as far as the first empty page, it is the list, with no item left out and none read twice
(`readsAll_pageOf`).
-/

namespace RaceAlbum

variable {α β : Type}

/-- What is read from a page on, page by page, up to the first page that is empty. -/
inductive ReadsFrom (read : Page → Except Failure (List α)) (limit : Int) : Int → List α → Prop where
  | last {n : Int} : read ⟨n, limit⟩ = .ok [] → ReadsFrom read limit n []
  | more {n : Int} {xs rest : List α} :
      read ⟨n, limit⟩ = .ok xs → xs ≠ [] → ReadsFrom read limit (n + 1) rest → ReadsFrom read limit n (xs ++ rest)

/-- What is read page by page from the first page on. -/
def ReadsAll (read : Page → Except Failure (List α)) (limit : Int) (xs : List α) : Prop := ReadsFrom read limit 1 xs

/-- Where each item is shown as something else, what is read is what it is shown as. -/
theorem ReadsFrom.map {read : Page → Except Failure (List α)} {limit n : Int} {xs : List α} (f : α → β)
    (h : ReadsFrom read limit n xs) : ReadsFrom (fun p => (read p).map (List.map f)) limit n (xs.map f) := by
  induction h with
  | last hread =>
    refine .last ?_
    rw [hread]
    rfl
  | more hread hne _ ih =>
    rw [List.map_append]
    refine .more ?_ (mt List.map_eq_nil_iff.1 hne) ih
    rw [hread]
    rfl

theorem isInt64_iff {n : Int} : isInt64 n = true ↔ -9223372036854775808 ≤ n ∧ n < 9223372036854775808 :=
  decide_eq_true_iff

namespace Archive

/-- A page holds items of its list. -/
theorem mem_of_mem_page {p : Page} {xs page : List α} (h : pageOf p xs = .ok page) {x : α} (hx : x ∈ page) :
    x ∈ xs := by
  unfold pageOf at h
  split at h
  · cases h
    unfold Page.items Page.slice at hx
    dsimp only at hx
    split at hx
    · exact List.mem_of_mem_drop hx
    · exact List.mem_of_mem_drop (List.mem_of_mem_take hx)
  · cases h

/-- Each item of a page shows an item of its list. -/
theorem exists_of_mem_page {p : Page} {xs : List α} {f : α → β} {page : List β}
    (h : (pageOf p xs).map (List.map f) = .ok page) {y : β} (hy : y ∈ page) : ∃ x ∈ xs, f x = y := by
  rcases hpage : pageOf p xs with g | ys
  · rw [hpage] at h
    cases h
  · rw [hpage] at h
    cases h
    obtain ⟨x, hx, rfl⟩ := List.mem_map.1 hy
    exact ⟨x, mem_of_mem_page hpage hx, rfl⟩

/-- The page after `k` pages is there as long as 64 bits can count as far. -/
theorem pageOf_eq {xs : List α} {k limit : Nat} (hlimit : isInt64 limit = true) (hskip : isInt64 (k * limit : Nat) = true) :
    pageOf ⟨k + 1, limit⟩ xs = .ok ((xs.drop (k * limit)).take limit) := by
  have hnumber : Page.skip ⟨k + 1, limit⟩ = (k * limit : Nat) := by simp [Page.skip]
  have hnot : ¬((limit : Int) < 0) := by omega
  unfold pageOf Page.items Page.slice
  rw [hnumber]
  simp only [Page.take, hlimit, hskip, Bool.and_self, if_true, hnot, if_false, Int.toNat_natCast]

/-- Each page begins where the one before it ended. -/
theorem readsFrom_pageOf {xs : List α} {limit : Nat} (hpos : 0 < limit) (hfit : isInt64 (xs.length + limit) = true)
    {gap k : Nat} (hk : k * limit < xs.length + limit) (hgap : xs.length ≤ k * limit + gap) :
    ReadsFrom (fun p => pageOf p xs) limit (k + 1) (xs.drop (k * limit)) := by
  have hbound := isInt64_iff.1 hfit
  have hlimit : isInt64 limit = true := isInt64_iff.2 (by omega)
  induction gap generalizing k with
  | zero =>
    have hskip : isInt64 (k * limit : Nat) = true := isInt64_iff.2 (by omega)
    have hnil : xs.drop (k * limit) = [] := List.drop_eq_nil_of_le hgap
    have hpage : pageOf ⟨k + 1, limit⟩ xs = .ok ((xs.drop (k * limit)).take limit) := pageOf_eq hlimit hskip
    rw [hnil, List.take_nil] at hpage
    rw [hnil]
    exact .last hpage
  | succ gap ih =>
    have hskip : isInt64 (k * limit : Nat) = true := isInt64_iff.2 (by omega)
    by_cases hend : xs.length ≤ k * limit
    · exact ih hk (by omega)
    · have hnext : (k + 1) * limit = k * limit + limit := Nat.succ_mul k limit
      have hk' : (k + 1) * limit < xs.length + limit := by
        rw [hnext]
        omega
      have hgap' : xs.length ≤ (k + 1) * limit + gap := by
        rw [hnext]
        omega
      have hrest : ReadsFrom (fun p => pageOf p xs) limit (k + 1 + 1) ((xs.drop (k * limit)).drop limit) := by
        rw [List.drop_drop, ← hnext]
        exact ih hk' hgap'
      have hne : (xs.drop (k * limit)).take limit ≠ [] := by
        intro hnil
        have hlength := congrArg List.length hnil
        rw [List.length_take, List.length_drop, List.length_nil] at hlength
        omega
      rw [← List.take_append_drop limit (xs.drop (k * limit))]
      exact .more (pageOf_eq hlimit hskip) hne hrest

/-- The pages of a list up to the first empty one are the list. -/
theorem readsAll_pageOf {xs : List α} {limit : Int} (hpos : 1 ≤ limit) (hfit : isInt64 (xs.length + limit) = true) :
    ReadsAll (fun p => pageOf p xs) limit xs := by
  obtain ⟨n, rfl⟩ := Int.eq_ofNat_of_zero_le (by omega : 0 ≤ limit)
  have hstart : 0 * n < xs.length + n := by omega
  have hread := readsFrom_pageOf (by omega) hfit hstart (by omega : xs.length ≤ 0 * n + xs.length)
  rw [Nat.zero_mul, List.drop_zero] at hread
  exact hread

/-- So it is for a list of the rows that are kept of a table, in an order, as long as 64 bits can count the table. -/
theorem readsAll_sorted (rows : List α) (keep : α → Bool) (before : α → α → Bool) {limit : Int} (hpos : 1 ≤ limit)
    (hfit : isInt64 (rows.length + limit) = true) :
    ReadsAll (fun p => pageOf p ((rows.filter keep).mergeSort before)) limit ((rows.filter keep).mergeSort before) := by
  have hlength : ((rows.filter keep).mergeSort before).length ≤ rows.length := by
    rw [List.length_mergeSort]
    exact List.length_filter_le _ _
  have hbound := isInt64_iff.1 hfit
  exact readsAll_pageOf hpos (isInt64_iff.2 (by omega))

end Archive

end RaceAlbum
