/-!
# Occurrences of one text in another

A text contains a word exactly where it can be split around the word, and looking for the place of
the word finds none exactly when the text does not contain it.
-/

namespace CatalogFilter.Text

theorem contains_iff_append
    {content word : String} :
    content.contains word = true ↔
      ∃ before after, content.toList = before ++ word.toList ++ after := by
  rw [String.contains_string_iff]
  constructor
  · rintro ⟨before, after, whole⟩
    exact ⟨before, after, whole.symm⟩
  · rintro ⟨before, after, whole⟩
    exact ⟨before, after, whole.symm⟩

theorem isNone_find?
    (content word : String) :
    (content.find? word).isNone = !content.contains word := by
  have agree : (content.find? word).isSome = content.contains word := by
    rw [String.find?_eq_find?_toSlice, Option.isSome_map, String.Slice.isSome_find?]
    rfl
  rw [← agree]
  cases content.find? word <;> rfl

end CatalogFilter.Text
