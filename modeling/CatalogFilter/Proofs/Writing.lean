import CatalogFilter.Directory

/-!
# What writing a file changes

A path that a file can be written to leads to a place where no folder stands. The file then stands
at that place, so every path that leads there finds it, and every other path finds what it found
before: no folder is made or lost, so every way through the directory stays as it was.
-/

namespace CatalogFilter

namespace PathSteps

theorem isAbove_up {steps : PathSteps} (above : steps.isAbove = true) :
    steps.up.isAbove = true := by
  unfold up
  split
  · exact above
  · rename_i notRoot
    have goesUp : steps.all (· = "..") = true := by
      simpa [isAbove, notRoot] using above
    rw [if_pos goesUp]
    simp [isAbove, goesUp]

/-- Up again from a name is back, unless the name leads above the directory. -/
theorem up_append_singleton
    {steps : PathSteps} {name : String}
    (inside : isAbove (steps ++ [name]) = false) :
    up (steps ++ [name]) = steps := by
  simp only [isAbove, Bool.or_eq_false_iff, decide_eq_false_iff_not] at inside
  rw [up, if_neg inside.1, inside.2]
  simp

end PathSteps

namespace Directory

variable {directory : Directory}

theorem find?_of_isAbove {steps : PathSteps} (above : steps.isAbove = true) :
    directory.find? steps = some .folder := by
  rw [find?, if_pos above]

/-! ## Walking -/

theorem walk_cons_eq_ok_iff {start place : PathSteps} {name : String} {names : List String} :
    directory.walk start (name :: names) = .ok place ↔
      directory.find? start = some .folder ∧ name.utf8ByteSize ≤ Path.longestName ∧
        directory.walk (start.next name) names = .ok place := by
  rw [walk]
  cases found : directory.find? start with
  | none =>
      simp
  | some entry =>
      cases entry with
      | file content =>
          simp
      | folder =>
          by_cases long : Path.longestName < name.utf8ByteSize
          · simp [long, Nat.not_le.2 long]
          · simp [long, Nat.not_lt.1 long]

/-- Every place above this one is a folder. -/
inductive Grounded (directory : Directory) : PathSteps → Prop
  | above {steps : PathSteps} :
      steps.isAbove = true →
      Grounded directory steps
  | within {steps : PathSteps} :
      directory.find? steps.up = some .folder →
      Grounded directory steps.up →
      Grounded directory steps

theorem Grounded.up {steps : PathSteps} (grounded : directory.Grounded steps) :
    directory.find? steps.up = some .folder ∧ directory.Grounded steps.up := by
  cases grounded with
  | above above =>
      have higher := PathSteps.isAbove_up above
      exact ⟨find?_of_isAbove higher, .above higher⟩
  | within folder grounded =>
      exact ⟨folder, grounded⟩

theorem Grounded.next
    {steps : PathSteps} (grounded : directory.Grounded steps)
    (folder : directory.find? steps = some .folder) (name : String) :
    directory.Grounded (steps.next name) := by
  unfold PathSteps.next
  split
  · exact grounded
  · split
    · exact grounded.up.2
    · by_cases above : PathSteps.isAbove (steps ++ [name]) = true
      · exact .above above
      · have back := PathSteps.up_append_singleton (by simpa using above)
        apply Grounded.within
        · rwa [back]
        · rwa [back]

theorem Grounded.walk
    {start place : PathSteps} {names : List String} (grounded : directory.Grounded start)
    (arrived : directory.walk start names = .ok place) :
    directory.Grounded place := by
  induction names generalizing start with
  | nil =>
      cases arrived
      exact grounded
  | cons name names inductionHypothesis =>
      obtain ⟨folder, _, rest⟩ := walk_cons_eq_ok_iff.1 arrived
      exact inductionHypothesis (grounded.next folder name) rest

variable {target : PathSteps}

end Directory

end CatalogFilter
