import Mathlib.Data.List.Forall2

/-!
# Lists gone through up to the first failure

A step is taken for each item in turn. All of them succeed, and then there is one result for each,
or the first that fails settles the answer.
-/

namespace CatalogFilter

section InTurn

variable {ε α β : Type} {step : α → Except ε β} {item : α} {items : List α}

theorem mapM_cons_of_ok {result : β} (taken : step item = .ok result) :
    (item :: items).mapM step = (items.mapM step).map (result :: ·) := by
  rw [List.mapM_cons, taken]
  rfl

theorem mapM_cons_of_error {error : ε} (failed : step item = .error error) :
    (item :: items).mapM step = .error error := by
  rw [List.mapM_cons, failed]
  rfl

theorem mapM_congr
    {other : α → Except ε β} (same : ∀ item ∈ items, step item = other item) :
    items.mapM step = items.mapM other := by
  induction items with
  | nil =>
      rfl
  | cons item items inductionHypothesis =>
      obtain ⟨first, rest⟩ := List.forall_mem_cons.1 same
      rw [List.mapM_cons, List.mapM_cons, first, inductionHypothesis rest]

theorem map_eq_ok_iff {answer : Except ε α} {f : α → β} {result : β} :
    answer.map f = .ok result ↔ ∃ value, answer = .ok value ∧ f value = result := by
  cases answer <;> simp [Except.map]

theorem map_eq_error_iff {answer : Except ε α} {f : α → β} {error : ε} :
    answer.map f = .error error ↔ answer = .error error := by
  cases answer <;> simp [Except.map]

theorem map_cons_map (answer : Except ε (List α)) (item : α) (f : α → β) :
    (answer.map (item :: ·)).map (List.map f) = (answer.map (List.map f)).map (f item :: ·) := by
  cases answer <;> rfl

theorem mapM_eq_ok_iff {results : List β} :
    items.mapM step = .ok results ↔
      List.Forall₂ (fun item result => step item = .ok result) items results := by
  induction items generalizing results with
  | nil =>
      rw [List.forall₂_nil_left_iff]
      exact ⟨fun finished => (Except.ok.inj finished).symm, fun empty => by rw [empty]; rfl⟩
  | cons item items inductionHypothesis =>
      rw [List.forall₂_cons_left_iff]
      cases taken : step item with
      | error error =>
          rw [mapM_cons_of_error taken]
          simp
      | ok result =>
          rw [mapM_cons_of_ok taken, map_eq_ok_iff]
          simp [inductionHypothesis, eq_comm]

theorem mapM_eq_error_iff {error : ε} :
    items.mapM step = .error error ↔
      ∃ before item after,
        items = before ++ item :: after ∧
          (∀ earlier ∈ before, ∃ result, step earlier = .ok result) ∧
            step item = .error error := by
  induction items with
  | nil =>
      constructor
      · rintro ⟨⟩
      · rintro ⟨before, item, after, split, _⟩
        simp at split
  | cons item items inductionHypothesis =>
      cases taken : step item with
      | error first =>
          rw [mapM_cons_of_error taken]
          constructor
          · rintro ⟨⟩
            exact ⟨[], item, items, rfl, by simp, taken⟩
          · rintro ⟨before, other, after, split, succeeded, failed⟩
            rcases List.cons_eq_append_iff.1 split with ⟨rfl, same⟩ | ⟨others, rfl, _⟩
            · cases same
              rw [taken] at failed
              cases failed
              rfl
            · obtain ⟨result, found⟩ := succeeded item List.mem_cons_self
              rw [taken] at found
              cases found
      | ok result =>
          rw [mapM_cons_of_ok taken, map_eq_error_iff, inductionHypothesis]
          constructor
          · rintro ⟨before, other, after, rfl, succeeded, failed⟩
            refine ⟨item :: before, other, after, rfl, ?_, failed⟩
            intro earlier member
            rcases List.mem_cons.1 member with rfl | later
            · exact ⟨result, taken⟩
            · exact succeeded earlier later
          · rintro ⟨before, other, after, split, succeeded, failed⟩
            rcases List.cons_eq_append_iff.1 split with ⟨rfl, same⟩ | ⟨others, rfl, rest⟩
            · cases same
              rw [taken] at failed
              cases failed
            · refine ⟨others, other, after, rest, ?_, failed⟩
              intro earlier member
              exact succeeded earlier (List.mem_cons_of_mem item member)

theorem exists_mapM_eq_ok_iff :
    (∃ results, items.mapM step = .ok results) ↔
      ∀ item ∈ items, ∃ result, step item = .ok result := by
  induction items with
  | nil =>
      exact iff_of_true ⟨[], rfl⟩ nofun
  | cons item items inductionHypothesis =>
      rw [List.forall_mem_cons, ← inductionHypothesis]
      cases taken : step item with
      | error error =>
          simp [mapM_cons_of_error taken]
      | ok result =>
          simp [mapM_cons_of_ok taken, map_eq_ok_iff]

/-- Each result is that of an item. -/
theorem exists_item_of_mapM
    {result : β} {results : List β} (taken : items.mapM step = .ok results)
    (member : result ∈ results) :
    ∃ item ∈ items, step item = .ok result := by
  rw [mapM_eq_ok_iff] at taken
  induction taken with
  | nil =>
      cases member
  | cons here _ inductionHypothesis =>
      rcases List.mem_cons.1 member with rfl | later
      · exact ⟨_, List.mem_cons_self, here⟩
      · obtain ⟨item, itemMember, found⟩ := inductionHypothesis later
        exact ⟨item, List.mem_cons_of_mem _ itemMember, found⟩

/-- Each item has its result. -/
theorem exists_result_of_mapM
    {results : List β} (taken : items.mapM step = .ok results) (member : item ∈ items) :
    ∃ result ∈ results, step item = .ok result := by
  rw [mapM_eq_ok_iff] at taken
  induction taken with
  | nil =>
      cases member
  | cons here _ inductionHypothesis =>
      rcases List.mem_cons.1 member with rfl | later
      · exact ⟨_, List.mem_cons_self, here⟩
      · obtain ⟨result, resultMember, found⟩ := inductionHypothesis later
        exact ⟨result, List.mem_cons_of_mem _ resultMember, found⟩

end InTurn

end CatalogFilter
