/-!
# Runs at the front of a list

A run is a stretch of elements that pass a test, up to the first one that fails it.
-/

namespace CatalogFilter

section Runs

variable {α : Type} {test : α → Bool} {run rest : List α}

theorem takeWhile_run
    (passing : ∀ item ∈ run, test item = true)
    (stops : ∀ item ∈ rest.head?, test item = false) :
    (run ++ rest).takeWhile test = run := by
  rw [List.takeWhile_append_of_pos passing]
  cases rest with
  | nil =>
      simp
  | cons item others =>
      have fails : test item = false := stops item rfl
      simp [fails]

theorem dropWhile_run
    (passing : ∀ item ∈ run, test item = true)
    (stops : ∀ item ∈ rest.head?, test item = false) :
    (run ++ rest).dropWhile test = rest := by
  rw [List.dropWhile_append_of_pos passing]
  cases rest with
  | nil =>
      simp
  | cons item others =>
      have fails : test item = false := stops item rfl
      simp [fails]

theorem of_mem_takeWhile (items : List α) :
    ∀ item ∈ items.takeWhile test, test item = true := by
  intro item member
  have passes : (items.takeWhile test).all test = true :=
    List.all_takeWhile
  exact List.all_eq_true.1 passes item member

theorem of_mem_head?_dropWhile (items : List α) :
    ∀ item ∈ (items.dropWhile test).head?, test item = false := by
  intro item ahead
  have failed := List.head?_dropWhile_not test items
  rw [Option.mem_def.1 ahead] at failed
  simpa using failed

end Runs

end CatalogFilter
