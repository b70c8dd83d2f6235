import CatalogFilter.Proofs.Atoms
import CatalogFilter.Proofs.ShortCircuit

/-!
# Words in joined texts

The items of an array are joined with spaces to one text, and `has` looks for its literal in that
text. A literal with a space in it may be found across two items. Any other one, such as each that
stands without quotes, is found exactly when it is in one of the items: an occurrence can reach over
no space, and joining loses no item.
-/

namespace CatalogFilter

namespace Text

variable {α : Type} {word : List α} {between : α} {parts : List (List α)}

/-- An occurrence of a word does not reach over an item that the word does not have. -/
theorem infix_append_cons_iff
    {front back : List α} (absent : between ∉ word) :
    word <:+: front ++ between :: back ↔ word <:+: front ∨ word <:+: back := by
  have nothingBehind {rest : List α} (within : ∀ item ∈ rest, item ∈ word)
      (starts : rest <+: between :: back) : rest = [] := by
    cases rest with
    | nil =>
        rfl
    | cons item others =>
        obtain ⟨rfl, _⟩ := List.cons_prefix_cons.1 starts
        exact absurd (within item List.mem_cons_self) absent
  constructor
  · intro occurs
    rcases List.infix_append_iff.1 occurs with inFront | behind | ⟨first, second, rfl, ends, starts⟩
    · exact .inl inFront
    · rcases List.infix_cons_iff.1 behind with starts | inBack
      · rw [nothingBehind (fun _ => id) starts]
        exact .inl List.nil_infix
      · exact .inr inBack
    · obtain rfl := nothingBehind (fun _ => List.mem_append_right first) starts
      rw [List.append_nil]
      exact .inl ends.isInfix
  · rintro (inFront | inBack)
    · exact inFront.trans (List.prefix_append front _).isInfix
    · have ends : back <:+ front ++ between :: back :=
        (List.suffix_cons between back).trans (List.suffix_append front _)
      exact inBack.trans ends.isInfix

/-- Every part is in what the parts are joined to. -/
theorem infix_intercalate_of_mem
    (separator : List α) {part : List α} (member : part ∈ parts) :
    part <:+: separator.intercalate parts := by
  induction parts with
  | nil =>
      cases member
  | cons first rest inductionHypothesis =>
      cases rest with
      | nil =>
          obtain rfl := List.mem_singleton.1 member
          have single : separator.intercalate [part] = part := List.intercalate_singleton
          exact single.symm ▸ List.infix_rfl
      | cons second others =>
          rw [List.intercalate_cons_cons, List.append_assoc]
          rcases List.mem_cons.1 member with rfl | later
          · exact (List.prefix_append part _).isInfix
          · exact (inductionHypothesis later).trans
              ((List.suffix_append separator _).trans (List.suffix_append first _)).isInfix

/-- Where parts are joined by what a word does not have, the word is in one of the parts. -/
theorem infix_intercalate_iff (nonempty : word ≠ []) (absent : between ∉ word) :
    word <:+: [between].intercalate parts ↔ ∃ part ∈ parts, word <:+: part := by
  constructor
  · intro occurs
    induction parts with
    | nil =>
        rw [List.intercalate_nil, List.infix_nil] at occurs
        exact absurd occurs nonempty
    | cons first rest inductionHypothesis =>
        cases rest with
        | nil =>
            rw [List.intercalate_singleton] at occurs
            exact ⟨first, List.mem_singleton_self first, occurs⟩
        | cons second others =>
            rw [List.intercalate_cons_cons, List.append_assoc, List.singleton_append,
              infix_append_cons_iff absent] at occurs
            rcases occurs with here | later
            · exact ⟨first, List.mem_cons_self, here⟩
            · obtain ⟨part, member, found⟩ := inductionHypothesis later
              exact ⟨part, List.mem_cons_of_mem first member, found⟩
  · rintro ⟨part, member, occurs⟩
    exact occurs.trans (infix_intercalate_of_mem [between] member)

end Text

namespace Catalog

/-- The text of a field is what its tags are joined to. -/
theorem fieldText_eq_intercalate (value : Option Json) :
    fieldText value = " ".intercalate (fieldTags value) := by
  cases value with
  | none =>
      rfl
  | some value =>
      cases value <;> rfl

theorem toList_fieldText (value : Option Json) :
    (fieldText value).toList = [' '].intercalate ((fieldTags value).map String.toList) := by
  have space : " ".toList = [' '] := rfl
  rw [fieldText_eq_intercalate, String.toList_intercalate, space]

/-- A word without a space is in the text of an array when it is in that of an item. -/
theorem contains_fieldText_array_iff
    {items : List Json} {needle : String} (nonempty : needle ≠ "") (noSpace : ' ' ∉ needle.toList) :
    (fieldText (some (.array items))).contains needle = true ↔
      ∃ item ∈ items, needle.toList <:+: item.text.toList := by
  have found : needle.toList ≠ [] := by simpa using nonempty
  rw [String.contains_string_iff, toList_fieldText, Text.infix_intercalate_iff found noSpace]
  simp [fieldTags]

end Catalog

theorem IsBareWord.noSpace {word : String} (isWord : IsBareWord word) : ' ' ∉ word.toList := by
  intro member
  exact absurd (isWord.bare ' ' member) (by decide)

/-- Under `has` an array is asked item by item. A literal that is not empty and has no space in it
is found in the joined texts exactly when it is found in one of them, and so is the literal of each
query that has it without quotes. -/
theorem Query.has_array_iff_item (items : List Json) :
    (∀ needle : String, needle ≠ "" → ' ' ∉ needle.toList →
      ∃ holds,
        (Expr.unary .has (.literal needle)).evaluate .substring
            (Catalog.subjectOf .substring (some (.array items))) = .ok holds ∧
          (holds = true ↔ ∃ item ∈ items, needle.toList <:+: item.text.toList)) ∧
    (∀ word : String, IsBareWord word →
      ∃ holds,
        run .substring ("has " ++ word) (Catalog.subjectOf .substring (some (.array items))) =
            .ok holds ∧
          (holds = true ↔ ∃ item ∈ items, word.toList <:+: item.text.toList)) := by
  have asked (needle : String) :
      (Expr.unary .has (.literal needle)).evaluate .substring
          (Catalog.subjectOf .substring (some (.array items))) =
        .ok ((Catalog.fieldText (some (.array items))).contains needle) := by
    rw [Expr.evaluate_eq_asked (Catalog.accepts_subjectOf ..),
      Expr.asked_containment (.inl rfl) (by decide)]
    rfl
  constructor
  · intro needle nonempty noSpace
    exact ⟨_, asked needle, Catalog.contains_fieldText_array_iff nonempty noSpace⟩
  · intro word isWord
    refine ⟨_, ?_, Catalog.contains_fieldText_array_iff isWord.nonempty isWord.noSpace⟩
    have spelled : "has " ++ word = Operator.has.symbol ++ " " ++ word := by
      apply String.toList_injective
      simp [Operator.symbol]
    have supported : Profile.substring.supports .has = true := rfl
    rw [spelled, run, compile_containment (.inl rfl) supported isWord]
    simp only [evaluate, asked]
    rfl

/-- Of a word that is cut in two by the items, only the parts are found. -/
theorem Query.has_array_iff_item_halves :
    let items : List Json := [.string "Space Shoo", .string "ter", .array [.string "Arcade"]]
    IsBareWord "ter" ∧
      run .substring "has ter" (Catalog.subjectOf .substring (some (.array items))) = .ok true ∧
      IsBareWord "Shooter" ∧
      run .substring "has Shooter" (Catalog.subjectOf .substring (some (.array items))) =
        .ok false := by
  intro items
  have half : IsBareWord "ter" := by decide
  have whole : IsBareWord "Shooter" := by decide
  obtain ⟨halfHolds, halfAnswered, halfFound⟩ := (has_array_iff_item items).2 "ter" half
  obtain ⟨holds, answered, found⟩ := (has_array_iff_item items).2 "Shooter" whole
  have inItem : ∃ item ∈ items, "ter".toList <:+: item.text.toList := by decide +kernel
  have inNone : ¬ ∃ item ∈ items, "Shooter".toList <:+: item.text.toList := by decide +kernel
  have halfTrue : halfHolds = true := halfFound.2 inItem
  have wholeFalse : holds = false := Bool.eq_false_iff.2 fun holds => inNone (found.1 holds)
  rw [halfTrue] at halfAnswered
  rw [wholeFalse] at answered
  exact ⟨half, halfAnswered, whole, answered⟩

end CatalogFilter
