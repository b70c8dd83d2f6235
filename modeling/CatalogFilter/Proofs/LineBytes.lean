import CatalogFilter.Catalog.Lines

/-!
# Lines as bytes

A catalog is cut as bytes and read as text. The two views fit together: a text has one run of bytes,
the bytes of a line hold no newline, and a text ends with a carriage return exactly when its bytes
do, since no character but an ASCII one has an ASCII byte. So lines that are written out with a
newline after each are read back, without one carriage return at their end.
-/

namespace CatalogFilter.Catalog

/-! ## Bytes of characters -/

/-- The bytes of some characters in UTF-8. -/
def utf8 (text : List Char) : List UInt8 :=
  text.flatMap String.utf8EncodeChar

theorem utf8_append (first second : List Char) :
    utf8 (first ++ second) = utf8 first ++ utf8 second :=
  List.flatMap_append

theorem toList_loop (bytes : ByteArray) (index : Nat) (read : List UInt8) :
    ByteArray.toList.loop bytes index read = read.reverse ++ bytes.data.toList.drop index := by
  fun_induction ByteArray.toList.loop bytes index read with
  | case1 index read within inductionHypothesis =>
      have inside : index < bytes.data.toList.length := by simpa using within
      rw [inductionHypothesis, List.drop_eq_getElem_cons inside]
      simp [ByteArray.get!, within]
  | case2 index read past =>
      rw [List.drop_eq_nil_of_le (by simpa using Nat.le_of_not_lt past)]
      simp

theorem toList_eq_toList_data (bytes : ByteArray) : bytes.toList = bytes.data.toList := by
  simp [ByteArray.toList, toList_loop]

theorem toByteArray_eq (text : String) : text.toByteArray = (utf8 text.toList).toByteArray := by
  have whole : String.ofList text.toList = text := String.ofList_toList
  calc
    text.toByteArray = (String.ofList text.toList).toByteArray := by rw [whole]
    _ = (utf8 text.toList).toByteArray := String.toByteArray_ofList

theorem toList_toUTF8 (text : String) : text.toUTF8.toList = utf8 text.toList := by
  rw [toList_eq_toList_data, String.toUTF8, toByteArray_eq, List.toList_data_toByteArray]

/-- Bytes are read as the text that they are the bytes of, if there is one. -/
theorem decode?_eq_some_iff {bytes : List UInt8} {text : String} :
    decode? bytes = some text ↔ bytes = utf8 text.toList := by
  have wrapped : (⟨bytes.toArray⟩ : ByteArray) = bytes.toByteArray :=
    ByteArray.ext List.data_toByteArray.symm
  rw [decode?, wrapped, String.fromUTF8?]
  constructor
  · intro found
    split at found
    · cases found
      have same := toByteArray_eq (String.fromUTF8 bytes.toByteArray ‹_›)
      have lists := congrArg (·.data.toList) same
      simpa [String.fromUTF8] using lists
    · cases found
  · rintro rfl
    have valid : (utf8 text.toList).toByteArray.IsValidUTF8 := by
      rw [← toByteArray_eq]
      exact text.isValidUTF8
    rw [dif_pos valid]
    congr 1
    rw [← String.toByteArray_inj, toByteArray_eq text]
    rfl

theorem utf8_injective : Function.Injective utf8 := by
  intro first second same
  have decoded : decode? (utf8 first) = some (String.ofList first) :=
    decode?_eq_some_iff.2 (by rw [String.toList_ofList])
  have decodedToo : decode? (utf8 first) = some (String.ofList second) :=
    decode?_eq_some_iff.2 (by rw [String.toList_ofList, same])
  rw [decoded, Option.some.injEq] at decodedToo
  exact String.ofList_injective decodedToo

/-! ## ASCII bytes -/

theorem le_toNat_of_mem_utf8EncodeChar {c : Char} (longer : 127 < c.val.toNat) :
    ∀ byte ∈ String.utf8EncodeChar c, 128 ≤ byte.toNat := by
  have notOne : ¬ c.val.toNat ≤ 127 := by omega
  simp only [String.utf8EncodeChar, if_neg notOne]
  -- two, three or four bytes, each a remainder with a mark on top
  split
  · simp only [List.forall_mem_cons, UInt8.toNat_ofNat', List.not_mem_nil, false_implies,
      implies_true, and_true]
    omega
  · split
    · simp only [List.forall_mem_cons, UInt8.toNat_ofNat', List.not_mem_nil, false_implies,
        implies_true, and_true]
      omega
    · simp only [List.forall_mem_cons, UInt8.toNat_ofNat', List.not_mem_nil, false_implies,
        implies_true, and_true]
      omega

/-- The byte of an ASCII character is its code. -/
theorem utf8EncodeChar_of_ascii {c : Char} (ascii : c.val ≤ 127) :
    String.utf8EncodeChar c = [c.val.toUInt8] :=
  String.utf8EncodeChar_eq_singleton (Char.utf8Size_eq_one_iff.2 ascii)

/-- A character with an ASCII byte has no other byte. -/
theorem utf8EncodeChar_eq_of_mem
    {c : Char} {byte : UInt8} (member : byte ∈ String.utf8EncodeChar c) (ascii : byte.toNat < 128) :
    String.utf8EncodeChar c = [byte] := by
  have one : c.val ≤ 127 := by
    apply Nat.le_of_not_lt
    intro longer
    have past := le_toNat_of_mem_utf8EncodeChar longer byte member
    omega
  rw [utf8EncodeChar_of_ascii one] at member ⊢
  rw [List.mem_singleton.1 member]

theorem eq_return_of_mem {c : Char} (member : carriageReturn ∈ String.utf8EncodeChar c) :
    c = '\r' := by
  have alone : String.utf8EncodeChar c = [carriageReturn] :=
    utf8EncodeChar_eq_of_mem member (by decide)
  have encoded : utf8 [c] = utf8 ['\r'] := by
    rw [utf8, List.flatMap_singleton, alone]
    rfl
  exact List.singleton_inj.1 (utf8_injective encoded)

/-! ## The last byte -/

/-- A text without the carriage return at its end, if it has one there. -/
def withoutReturn (text : List Char) : List Char :=
  if text.getLast? = some '\r' then text.dropLast else text

theorem withoutReturn_append (text : List Char) (c : Char) :
    withoutReturn (text ++ [c]) = if c = '\r' then text else text ++ [c] := by
  simp [withoutReturn]

/-- Dropping a carriage return from the bytes is dropping it from the text. -/
theorem reverse_dropReturn_utf8 (text : List Char) :
    (dropReturn (utf8 text).reverse).reverse = utf8 (withoutReturn text) := by
  obtain rfl | ⟨front, c, rfl⟩ := List.eq_nil_or_concat text
  · rfl
  · rw [List.concat_eq_append, withoutReturn_append]
    by_cases isReturn : c = '\r'
    · -- its one byte is the last one
      subst isReturn
      rw [if_pos rfl, utf8_append]
      simp [utf8, dropReturn, String.utf8EncodeChar, carriageReturn]
    · obtain ⟨before, last, encoded⟩ :=
        (List.eq_nil_or_concat (String.utf8EncodeChar c)).resolve_left String.utf8EncodeChar_ne_nil
      rw [List.concat_eq_append] at encoded
      have other : last ≠ carriageReturn := by
        rintro rfl
        exact isReturn (eq_return_of_mem (by simp [encoded]))
      rw [if_neg isReturn]
      have bytes : utf8 (front ++ [c]) = utf8 front ++ before ++ [last] := by
        simp [utf8, encoded]
      rw [bytes]
      simp [dropReturn, other]

/-! ## Cutting -/

section Cutting

variable {cut : List (List UInt8)} {current : List UInt8}

theorem cutLines_newline (rest : List UInt8) :
    cutLines cut current (newline :: rest) =
      cutLines ((dropReturn current).reverse :: cut) [] rest := by
  rw [cutLines, if_pos rfl]

theorem cutLines_append {line : List UInt8} (within : newline ∉ line) (rest : List UInt8) :
    cutLines cut current (line ++ rest) = cutLines cut (line.reverse ++ current) rest := by
  induction line generalizing current with
  | nil =>
      rfl
  | cons byte line inductionHypothesis =>
      rw [List.mem_cons, not_or] at within
      rw [List.cons_append, cutLines, if_neg (Ne.symm within.1), inductionHypothesis within.2]
      simp

/-- Bytes that are lines with a newline after each are cut into those lines. -/
theorem cutLines_lines
    {lines : List (List UInt8)} (within : ∀ line ∈ lines, newline ∉ line) :
    cutLines cut [] (lines.flatMap (· ++ [newline])) =
      cut.reverse ++ lines.map fun line => (dropReturn line.reverse).reverse := by
  induction lines generalizing cut with
  | nil =>
      simp [cutLines]
  | cons line lines inductionHypothesis =>
      rw [List.forall_mem_cons] at within
      rw [List.flatMap_cons, List.append_assoc, cutLines_append within.1, List.append_nil,
        List.singleton_append, cutLines_newline, inductionHypothesis within.2]
      simp

theorem not_mem_dropReturn {byte : UInt8} {bytes : List UInt8} (absent : byte ∉ bytes) :
    byte ∉ dropReturn bytes := by
  cases bytes with
  | nil =>
      exact absent
  | cons first rest =>
      rw [dropReturn]
      split
      · exact fun member => absent (List.mem_cons_of_mem first member)
      · exact absent

/-- No line that comes out of cutting holds a newline. -/
theorem newline_not_mem_of_mem_cutLines
    {bytes : List UInt8} (cutWithout : ∀ line ∈ cut, newline ∉ line)
    (currentWithout : newline ∉ current) :
    ∀ line ∈ cutLines cut current bytes, newline ∉ line := by
  induction bytes generalizing cut current with
  | nil =>
      intro line member
      rw [cutLines] at member
      split at member
      · exact cutWithout line (List.mem_reverse.1 member)
      · obtain rfl | before := List.mem_cons.1 (List.mem_reverse.1 member)
        · rwa [List.mem_reverse]
        · exact cutWithout line before
  | cons byte rest inductionHypothesis =>
      rw [cutLines]
      split
      · apply inductionHypothesis
        · rw [List.forall_mem_cons, List.mem_reverse]
          exact ⟨not_mem_dropReturn currentWithout, cutWithout⟩
        · simp
      · rename_i other
        apply inductionHypothesis cutWithout
        rw [List.mem_cons, not_or]
        exact ⟨Ne.symm other, currentWithout⟩

end Cutting

/-! ## Keeping -/

/-- Lines of these texts, numbered from `number` on. -/
def numbered (number : Nat) : List String → List Line
  | [] => []
  | text :: rest => ⟨number, text⟩ :: numbered (number + 1) rest

theorem map_text_numbered (number : Nat) (texts : List String) :
    (numbered number texts).map Line.text = texts := by
  induction texts generalizing number with
  | nil =>
      rfl
  | cons text texts inductionHypothesis =>
      rw [numbered, List.map_cons, inductionHypothesis]

/-- A line that was kept is the text of its bytes and holds more than white space. -/
theorem of_mem_keepLines
    {read lines : List Line} {number : Nat} {pieces : List (List UInt8)}
    (kept : keepLines read number pieces = .ok lines) :
    ∀ line ∈ lines, line ∈ read ∨
      utf8 line.text.toList ∈ pieces ∧ Text.isBlank line.text.toList = false := by
  induction pieces generalizing read number with
  | nil =>
      cases kept
      intro line member
      exact .inl (List.mem_reverse.1 member)
  | cons bytes pieces inductionHypothesis =>
      unfold keepLines at kept
      split at kept
      · cases kept
      · rename_i text decoded
        have same := decode?_eq_some_iff.1 decoded
        intro line member
        split at kept
        · obtain before | ⟨later, printed⟩ := inductionHypothesis kept line member
          · exact .inl before
          · exact .inr ⟨List.mem_cons_of_mem bytes later, printed⟩
        · rename_i printed
          obtain before | ⟨later, others⟩ := inductionHypothesis kept line member
          · obtain rfl | before := List.mem_cons.1 before
            · rw [Bool.not_eq_true] at printed
              exact .inr ⟨by simp [same], printed⟩
            · exact .inl before
          · exact .inr ⟨List.mem_cons_of_mem bytes later, others⟩

theorem keepLines_utf8
    {read : List Line} {number : Nat} {texts : List String}
    (printed : ∀ text ∈ texts, Text.isBlank text.toList = false) :
    keepLines read number (texts.map fun text => utf8 text.toList) =
      .ok (read.reverse ++ numbered number texts) := by
  induction texts generalizing read number with
  | nil =>
      simp [keepLines, numbered]
  | cons text texts inductionHypothesis =>
      rw [List.forall_mem_cons] at printed
      have decoded : decode? (utf8 text.toList) = some text := decode?_eq_some_iff.2 rfl
      rw [List.map_cons, keepLines, decoded]
      simp only [printed.1, Bool.false_eq_true, if_false]
      rw [inductionHypothesis printed.2, numbered]
      simp

end CatalogFilter.Catalog
