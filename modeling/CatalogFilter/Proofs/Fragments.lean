import CatalogFilter.Proofs.Layout
import CatalogFilter.Query
import Mathlib.Data.List.TakeWhile

/-!
# The fragment of a lexical error

Where no lexeme starts, the complaint names an offset and a fragment of the text. The gaps between
lexemes are four characters, and the words that a fragment is cut from have white space of any kind
between them. So the fragment is the first word from the offset on. It stands at the offset itself
unless the character there is white space that is no gap, with a word somewhere behind it.
-/

namespace CatalogFilter

namespace Text

variable {text : List Char}

theorem dropWhile_isWhiteSpace_eq_nil_iff :
    text.dropWhile isWhiteSpace = [] ↔ isBlank text = true := by
  rw [List.dropWhile_eq_nil_iff, isBlank, List.all_eq_true]

theorem firstWord_of_isBlank (blank : isBlank text = true) : firstWord text = text := by
  unfold firstWord
  rw [dropWhile_isWhiteSpace_eq_nil_iff.2 blank]
  rfl

/-- Where there is a word, the first one has white space in front and white space or nothing
behind. -/
theorem exists_firstWord_split (printed : isBlank text = false) :
    ∃ blank rest : List Char,
      text = blank ++ firstWord text ++ rest ∧
        firstWord text ≠ [] ∧
        (∀ c ∈ blank, isWhiteSpace c = true) ∧
        (∀ c ∈ firstWord text, isWhiteSpace c = false) ∧
        (∀ c ∈ rest.head?, isWhiteSpace c = true) := by
  have remains : text.dropWhile isWhiteSpace ≠ [] := by
    intro nothing
    rw [dropWhile_isWhiteSpace_eq_nil_iff, printed] at nothing
    cases nothing
  obtain ⟨c, others, ahead⟩ := List.exists_cons_of_ne_nil remains
  have headPrinted : isWhiteSpace c = false := by
    apply of_mem_head?_dropWhile text
    rw [ahead]
    rfl
  have word : firstWord text = (c :: others).takeWhile (!isWhiteSpace ·) := by
    simp [firstWord, ahead, headPrinted]
  refine ⟨text.takeWhile isWhiteSpace, (c :: others).dropWhile (!isWhiteSpace ·), ?_, ?_, ?_, ?_, ?_⟩
  · calc
      text = text.takeWhile isWhiteSpace ++ text.dropWhile isWhiteSpace :=
        List.takeWhile_append_dropWhile.symm
      _ = text.takeWhile isWhiteSpace ++
            (firstWord text ++ (c :: others).dropWhile (!isWhiteSpace ·)) := by
        rw [ahead, word, List.takeWhile_append_dropWhile]
      _ = text.takeWhile isWhiteSpace ++ firstWord text ++
            (c :: others).dropWhile (!isWhiteSpace ·) :=
        (List.append_assoc ..).symm
  · rw [word]
    simp [headPrinted]
  · exact of_mem_takeWhile text
  · intro d member
    rw [word] at member
    simpa using of_mem_takeWhile (c :: others) d member
  · intro d member
    simpa using of_mem_head?_dropWhile (c :: others) d member

theorem firstWord_ne_nil (nonempty : text ≠ []) : firstWord text ≠ [] := by
  cases printed : isBlank text with
  | true =>
      rw [firstWord_of_isBlank printed]
      exact nonempty
  | false =>
      obtain ⟨_, _, _, found, _⟩ := exists_firstWord_split printed
      exact found

/-- The first word starts the text unless white space stands there with a word behind it. -/
theorem exists_firstWord_append_iff :
    (∃ rest, text = firstWord text ++ rest) ↔
      isBlank text = true ∨ ∀ c ∈ text.head?, isWhiteSpace c = false := by
  cases printed : isBlank text with
  | true =>
      have whole : text = firstWord text ++ [] := by
        rw [firstWord_of_isBlank printed, List.append_nil]
      exact ⟨fun _ => .inl rfl, fun _ => ⟨[], whole⟩⟩
  | false =>
      obtain ⟨blank, rest, split, found, white, inked, _⟩ := exists_firstWord_split printed
      constructor
      · rintro ⟨others, starts⟩
        right
        obtain ⟨c, word, spelled⟩ := List.exists_cons_of_ne_nil found
        have first : isWhiteSpace c = false := by
          apply inked
          rw [spelled]
          exact List.mem_cons_self ..
        rw [starts, spelled]
        rintro d ⟨⟩
        exact first
      · rintro (never | first)
        · cases never
        · cases blank with
          | nil =>
              exact ⟨rest, split⟩
          | cons c others =>
              -- The white space in front is nothing, since the text starts with a word.
              have headWhite : isWhiteSpace c = true := white c (List.mem_cons_self ..)
              have headInked : isWhiteSpace c = false := by
                apply first
                rw [split]
                rfl
              rw [headWhite] at headInked
              cases headInked

end Text

namespace Token

/-- The fragment of a lexical error is never empty: it is the first word of the text from the offset
on, or all of that text if it is white space. So it stands at the offset, unless the character there
is white space and a word comes later. -/
theorem fragment_of_scan_eq_error
    {profile : Profile} {source : String} {error : LexicalError}
    (failed : scan profile source = .error error) :
    ∃ before after : String,
      source = before ++ after ∧
        error.offset = before.utf8ByteSize ∧
        error.fragment ≠ "" ∧
        (Text.isBlank after.toList = true ∧ error.fragment = after ∨
          ∃ blank rest : List Char,
            after.toList = blank ++ error.fragment.toList ++ rest ∧
              (∀ c ∈ blank, Text.isWhiteSpace c = true) ∧
              (∀ c ∈ error.fragment.toList, Text.isWhiteSpace c = false) ∧
              (∀ c ∈ rest.head?, Text.isWhiteSpace c = true)) ∧
        ((∃ rest, after.toList = error.fragment.toList ++ rest) ↔
          Text.isBlank after.toList = true ∨
            ∀ c ∈ after.toList.head?, Text.isWhiteSpace c = false) := by
  obtain ⟨before, after, split, rfl, _, c, rest, ahead, _, _⟩ :=
    exists_split_of_scan_eq_error failed
  have nonempty : after.toList ≠ [] := by
    rw [ahead]
    exact List.cons_ne_nil c rest
  have found := Text.firstWord_ne_nil nonempty
  simp only [String.toList_ofList]
  refine ⟨before, after, split, rfl, ?_, ?_, Text.exists_firstWord_append_iff⟩
  · simpa using found
  · cases printed : Text.isBlank after.toList with
    | true =>
        left
        rw [Text.firstWord_of_isBlank printed, String.ofList_toList]
        exact ⟨rfl, rfl⟩
    | false =>
        obtain ⟨blank, others, whole, _, white, inked, ends⟩ :=
          Text.exists_firstWord_split printed
        exact .inr ⟨blank, others, whole, white, inked, ends⟩

/-- A no-break space parts words but not lexemes: the complaint has its offset and the word behind
it. -/
theorem fragment_of_scan_eq_error_noBreakSpace :
    scan .substring "has\u00a0A" = .error ⟨3, "A"⟩ ∧
      ∃ before after : String,
        "has\u00a0A" = before ++ after ∧ 3 = before.utf8ByteSize ∧
          ((∃ rest, after.toList = "A".toList ++ rest) ↔
            Text.isBlank after.toList = true ∨
              ∀ c ∈ after.toList.head?, Text.isWhiteSpace c = false) := by
  have failed : scan .substring "has\u00a0A" = .error ⟨3, "A"⟩ := by
    decide +kernel
  obtain ⟨before, after, split, starts, _, _, stands⟩ := fragment_of_scan_eq_error failed
  exact ⟨failed, before, after, split, starts, stands⟩

/-- The word `has` is complained of at the offset of the no-break space before it: no text that is
cut there starts with it. -/
theorem fragment_behind_offset :
    scan .substring "\u00a0has X" = .error ⟨0, "has"⟩ ∧
      ∀ before after : String,
        "\u00a0has X" = before ++ after → before.utf8ByteSize = 0 →
          ∀ rest, after.toList ≠ "has".toList ++ rest := by
  refine ⟨by decide +kernel, ?_⟩
  intro before after split starts rest same
  have empty : before = "" := String.utf8ByteSize_eq_zero_iff.1 starts
  rw [empty, String.empty_append] at split
  rw [← split] at same
  have heads := congrArg List.head? same
  simp at heads

end Token

end CatalogFilter
