import CatalogFilter.Proofs.InTurn
import CatalogFilter.Proofs.LineBytes

/-!
# Which lines are read

A catalog is cut into lines before anything is decoded. The cuts are at newline bytes, and no
character but the newline has such a byte in it, so a catalog is UTF-8 exactly when every line of it
is. The main statement says which lines are read, under which numbers and with which bytes, and
which line an error is about. It describes a line by the bytes before it and after it and not by the
cutting.
-/

namespace CatalogFilter.Catalog

/-! ## Bytes that are a text -/

/-- The bytes are those of some characters. -/
def IsText (bytes : List UInt8) : Prop :=
  ∃ text, bytes = utf8 text

theorem isText_iff_isValidUTF8 {bytes : List UInt8} :
    IsText bytes ↔ bytes.toByteArray.IsValidUTF8 := by
  constructor
  · rintro ⟨text, rfl⟩
    exact .intro text rfl
  · rintro ⟨text, same⟩
    refine ⟨text, ?_⟩
    have lists := congrArg (·.data.toList) same
    simpa [List.utf8Encode, utf8] using lists

theorem decode?_eq_none_iff {bytes : List UInt8} : decode? bytes = none ↔ ¬ IsText bytes := by
  rw [Option.eq_none_iff_forall_ne_some]
  constructor
  · rintro nothing ⟨text, rfl⟩
    apply nothing (String.ofList text)
    rw [decode?_eq_some_iff, String.toList_ofList]
  · intro noText text decoded
    exact noText ⟨text.toList, decode?_eq_some_iff.1 decoded⟩

/-- Where a text has an ASCII byte, it has a character of this one byte. -/
theorem exists_split_of_utf8_eq
    {text : List Char} {front back : List UInt8} {byte : UInt8} (ascii : byte.toNat < 128)
    (split : utf8 text = front ++ byte :: back) :
    ∃ before after, utf8 before = front ∧ utf8 after = back := by
  induction text generalizing front with
  | nil =>
      simp [utf8] at split
  | cons c text inductionHypothesis =>
      have cons : utf8 (c :: text) = String.utf8EncodeChar c ++ utf8 text := List.flatMap_cons
      rw [cons] at split
      rcases List.append_eq_append_iff.1 split with ⟨more, rfl, later⟩ | ⟨more, encoded, rest⟩
      · obtain ⟨before, after, rfl, rfl⟩ := inductionHypothesis later
        exact ⟨c :: before, after, List.flatMap_cons, rfl⟩
      · cases more with
        | nil =>
            obtain ⟨before, after, start, rfl⟩ := @inductionHypothesis [] rest.symm
            rw [List.append_nil] at encoded
            exact ⟨[c], after, by simp [utf8, encoded], rfl⟩
        | cons first others =>
            -- The byte is one of the character's, hence the only one.
            obtain ⟨same, later⟩ := List.cons.inj rest
            have member : byte ∈ String.utf8EncodeChar c := by
              rw [encoded, same]
              exact List.mem_append_right front List.mem_cons_self
            rw [utf8EncodeChar_eq_of_mem member ascii] at encoded
            have lengths := congrArg List.length encoded
            simp only [List.length_append, List.length_cons, List.length_nil] at lengths
            have frontEmpty : front = [] := List.length_eq_zero_iff.1 (by omega)
            have othersEmpty : others = [] := List.length_eq_zero_iff.1 (by omega)
            subst frontEmpty othersEmpty
            exact ⟨[], text, rfl, later.symm⟩

/-- A run of bytes with an ASCII character in it is a text when what is before and behind the
character is. -/
theorem isText_append_cons_iff
    {front back : List UInt8} {c : Char} {byte : UInt8} (ascii : byte.toNat < 128)
    (encoded : String.utf8EncodeChar c = [byte]) :
    IsText (front ++ byte :: back) ↔ IsText front ∧ IsText back := by
  constructor
  · rintro ⟨text, whole⟩
    obtain ⟨before, after, rfl, rfl⟩ := exists_split_of_utf8_eq ascii whole.symm
    exact ⟨⟨before, rfl⟩, ⟨after, rfl⟩⟩
  · rintro ⟨⟨before, rfl⟩, ⟨after, rfl⟩⟩
    exact ⟨before ++ c :: after, by simp [utf8, encoded]⟩

theorem isText_append_newline_iff {front back : List UInt8} :
    IsText (front ++ newline :: back) ↔ IsText front ∧ IsText back :=
  isText_append_cons_iff (c := '\n') (by decide) (by decide)

theorem isText_append_return_iff {front : List UInt8} :
    IsText (front ++ [carriageReturn]) ↔ IsText front := by
  have nothing : IsText [] := ⟨[], rfl⟩
  rw [isText_append_cons_iff (c := '\r') (by decide) (by decide)]
  exact and_iff_left nothing

/-! ## Lines -/

/-- Bytes without a newline, and next to them on either side a newline or nothing. -/
structure IsPiece (bytes before piece after : List UInt8) : Prop where
  whole : bytes = before ++ (piece ++ after)
  within : newline ∉ piece
  starts : ∀ byte ∈ before.getLast?, byte = newline
  ends : ∀ byte ∈ after.head?, byte = newline

/-- The line that a piece is. If a newline comes after it, it loses one carriage return at its
end. -/
def lineOf (piece after : List UInt8) : List UInt8 :=
  if after ≠ [] ∧ piece.getLast? = some carriageReturn then piece.dropLast else piece

/-- `line` is the line with this number: one more than there are newlines before it. -/
def IsLine (bytes : List UInt8) (number : Nat) (line : List UInt8) : Prop :=
  ∃ before piece after,
    IsPiece bytes before piece after ∧
      number = before.count newline + 1 ∧ line = lineOf piece after

theorem lineOf_nil (piece : List UInt8) : lineOf piece [] = piece := by
  simp [lineOf]

theorem lineOf_cons (piece rest : List UInt8) :
    lineOf piece (newline :: rest) = (dropReturn piece.reverse).reverse := by
  obtain rfl | ⟨front, last, rfl⟩ := List.eq_nil_or_concat piece
  · rfl
  · rw [List.concat_eq_append]
    by_cases isReturn : last = carriageReturn
    · simp [lineOf, dropReturn, isReturn]
    · simp [lineOf, dropReturn, isReturn]

theorem isText_lineOf_iff {piece after : List UInt8} :
    IsText (lineOf piece after) ↔ IsText piece := by
  unfold lineOf
  split
  · rename_i returns
    obtain ⟨front, rfl⟩ := List.getLast?_eq_some_iff.1 returns.2
    rw [List.dropLast_concat, isText_append_return_iff]
  · rfl

/-- Whatever holds of a last line and of a line in front of others holds of all bytes. -/
@[elab_as_elim]
theorem induction_on_newlines
    {motive : List UInt8 → Prop}
    (last : ∀ piece, newline ∉ piece → motive piece)
    (more : ∀ piece rest, newline ∉ piece → motive rest → motive (piece ++ newline :: rest))
    (bytes : List UInt8) :
    motive bytes := by
  induction length : bytes.length using Nat.strongRecOn generalizing bytes with
  | ind size inductionHypothesis =>
      by_cases present : newline ∈ bytes
      · obtain ⟨piece, rest, rfl, within⟩ := List.eq_append_cons_of_mem present
        apply more piece rest within
        apply inductionHypothesis rest.length _ rest rfl
        simp only [← length, List.length_append, List.length_cons]
        omega
      · exact last bytes present

theorem isLine_iff_of_not_mem {bytes : List UInt8} (within : newline ∉ bytes)
    {number : Nat} {line : List UInt8} :
    IsLine bytes number line ↔ number = 1 ∧ line = bytes := by
  constructor
  · rintro ⟨before, piece, after, cut, rfl, rfl⟩
    have beforeEmpty : before = [] := by
      apply List.getLast?_eq_none_iff.1
      rw [Option.eq_none_iff_forall_not_mem]
      intro byte last
      apply within
      rw [cut.whole, ← cut.starts byte last]
      exact List.mem_append_left _ (List.mem_of_getLast? last)
    have afterEmpty : after = [] := by
      apply List.head?_eq_none_iff.1
      rw [Option.eq_none_iff_forall_not_mem]
      intro byte ahead
      apply within
      rw [cut.whole, ← cut.ends byte ahead]
      exact List.mem_append_right _ (List.mem_append_right _ (List.mem_of_mem_head? ahead))
    subst beforeEmpty afterEmpty
    rw [lineOf_nil, cut.whole]
    simp
  · rintro ⟨rfl, rfl⟩
    exact ⟨[], line, [], ⟨by simp, within, nofun, nofun⟩, by simp, (lineOf_nil line).symm⟩

section Newlines

variable {piece rest : List UInt8} {number : Nat} {line : List UInt8}

/-- A newline in bytes with a first newline is that one, or it comes later. -/
theorem split_at_newline
    {front back : List UInt8} (within : newline ∉ piece)
    (split : piece ++ newline :: rest = front ++ newline :: back) :
    front = piece ∧ back = rest ∨
      ∃ more, front = piece ++ newline :: more ∧ rest = more ++ newline :: back := by
  rcases List.append_eq_append_iff.1 split with ⟨more, rfl, same⟩ | ⟨more, rfl, same⟩
  · cases more with
    | nil =>
        simp only [List.nil_append, List.cons.injEq, true_and] at same
        simp [same]
    | cons byte others =>
        obtain ⟨rfl, rfl⟩ := List.cons.inj same
        exact .inr ⟨others, rfl, rfl⟩
  · cases more with
    | nil =>
        simp only [List.nil_append, List.cons.injEq, true_and] at same
        simp [same]
    | cons byte others =>
        obtain ⟨rfl, _⟩ := List.cons.inj same
        exact absurd (List.mem_append_right front List.mem_cons_self) within

theorem isPiece_nil_iff (within : newline ∉ piece) {other after : List UInt8} :
    IsPiece (piece ++ newline :: rest) [] other after ↔
      other = piece ∧ after = newline :: rest := by
  constructor
  · intro cut
    have whole := cut.whole
    cases after with
    | nil =>
        rw [List.nil_append, List.append_nil] at whole
        have present : newline ∈ other := by simp [← whole]
        exact absurd present cut.within
    | cons byte back =>
        obtain rfl := cut.ends byte rfl
        rcases split_at_newline within whole with ⟨rfl, rfl⟩ | ⟨more, rfl, _⟩
        · exact ⟨rfl, rfl⟩
        · exact absurd (List.mem_append_right piece List.mem_cons_self) cut.within
  · rintro ⟨rfl, rfl⟩
    exact ⟨rfl, within, nofun, by simp⟩

/-- A piece with bytes before it is one of the bytes behind the first newline. -/
theorem isPiece_iff_of_ne_nil
    (within : newline ∉ piece) {before other after : List UInt8} (nonempty : before ≠ []) :
    IsPiece (piece ++ newline :: rest) before other after ↔
      ∃ later, before = piece ++ newline :: later ∧ IsPiece rest later other after := by
  constructor
  · intro cut
    obtain ⟨front, last, rfl⟩ := List.eq_nil_or_concat before |>.resolve_left nonempty
    rw [List.concat_eq_append] at cut ⊢
    obtain rfl : last = newline := cut.starts last (by simp)
    have whole := cut.whole
    rw [List.append_assoc, List.singleton_append] at whole
    rcases split_at_newline within whole with ⟨rfl, rfl⟩ | ⟨more, rfl, rfl⟩
    · exact ⟨[], rfl, rfl, cut.within, nofun, cut.ends⟩
    · exact ⟨more ++ [newline], by simp, by simp, cut.within, by simp, cut.ends⟩
  · rintro ⟨later, rfl, cut⟩
    refine ⟨by simp [cut.whole], cut.within, ?_, cut.ends⟩
    intro byte last
    rw [List.getLast?_append_cons, List.getLast?_cons] at last
    cases ends : later.getLast? with
    | none =>
        simpa [ends, eq_comm] using last
    | some found =>
        simp only [ends, Option.getD_some, Option.mem_def, Option.some.injEq] at last
        subst last
        exact cut.starts found ends

theorem isLine_append_iff (within : newline ∉ piece) :
    IsLine (piece ++ newline :: rest) number line ↔
      number = 1 ∧ line = lineOf piece (newline :: rest) ∨
        ∃ earlier, number = earlier + 1 ∧ IsLine rest earlier line := by
  constructor
  · rintro ⟨before, other, after, cut, rfl, rfl⟩
    by_cases first : before = []
    · subst first
      obtain ⟨rfl, rfl⟩ := (isPiece_nil_iff within).1 cut
      exact .inl ⟨by simp, rfl⟩
    · obtain ⟨later, rfl, cutLater⟩ := (isPiece_iff_of_ne_nil within first).1 cut
      refine .inr ⟨_, ?_, later, other, after, cutLater, rfl, rfl⟩
      simp [List.count_eq_zero_of_not_mem within]
  · rintro (⟨rfl, rfl⟩ | ⟨earlier, rfl, later, other, after, cutLater, rfl, rfl⟩)
    · exact ⟨[], piece, _, (isPiece_nil_iff within).2 ⟨rfl, rfl⟩, by simp, rfl⟩
    · refine ⟨piece ++ newline :: later, other, after, ?_, ?_, rfl⟩
      · exact (isPiece_iff_of_ne_nil within (by simp)).2 ⟨later, rfl, cutLater⟩
      · simp [List.count_eq_zero_of_not_mem within]

end Newlines

/-! ## Cutting -/

theorem cutLines_eq_append (cut : List (List UInt8)) (current bytes : List UInt8) :
    cutLines cut current bytes = cut.reverse ++ cutLines [] current bytes := by
  induction bytes generalizing cut current with
  | nil =>
      rw [cutLines, cutLines]
      split <;> simp
  | cons byte rest inductionHypothesis =>
      rw [cutLines, cutLines]
      split
      · rw [inductionHypothesis, inductionHypothesis [_]]
        simp
      · exact inductionHypothesis cut _

theorem cutLines_of_not_mem {bytes : List UInt8} (within : newline ∉ bytes) :
    cutLines [] [] bytes = if bytes = [] then [] else [bytes] := by
  have cut : cutLines [] [] (bytes ++ []) = cutLines [] (bytes.reverse ++ []) [] :=
    cutLines_append within []
  rw [List.append_nil, List.append_nil] at cut
  rw [cut, cutLines]
  split <;> simp_all

theorem cutLines_append_newline
    {piece : List UInt8} (within : newline ∉ piece) (rest : List UInt8) :
    cutLines [] [] (piece ++ newline :: rest) =
      lineOf piece (newline :: rest) :: cutLines [] [] rest := by
  rw [cutLines_append within, List.append_nil, cutLines_newline, cutLines_eq_append, lineOf_cons]
  rfl

/-- The lines that are cut are the lines. An empty line at the end is left out. -/
theorem getElem?_cutLines_eq_some_iff
    {bytes line : List UInt8} (nonempty : line ≠ []) {index : Nat} :
    (cutLines [] [] bytes)[index]? = some line ↔ IsLine bytes (index + 1) line := by
  induction bytes using induction_on_newlines generalizing index with
  | last piece within =>
      rw [cutLines_of_not_mem within, isLine_iff_of_not_mem within]
      split
      · rename_i empty
        simp [empty, nonempty]
      · simp [List.getElem?_singleton, eq_comm, and_comm]
  | more piece rest within inductionHypothesis =>
      rw [cutLines_append_newline within, isLine_append_iff within]
      cases index with
      | zero =>
          have noneBefore : ¬ IsLine rest 0 line := by
            rintro ⟨_, _, _, _, zero, _⟩
            omega
          simp [noneBefore, eq_comm]
      | succ index =>
          simp [inductionHypothesis]

theorem mem_zipIdx_cutLines_iff
    {bytes line : List UInt8} (nonempty : line ≠ []) {number : Nat} :
    (line, number) ∈ (cutLines [] [] bytes).zipIdx 1 ↔ IsLine bytes number line := by
  rw [List.mk_mem_zipIdx_iff_le_and_getElem?_sub, getElem?_cutLines_eq_some_iff nonempty]
  constructor
  · rintro ⟨positive, isLine⟩
    rwa [Nat.sub_add_cancel positive] at isLine
  · intro isLine
    have positive : 1 ≤ number := by
      obtain ⟨_, _, _, _, rfl, _⟩ := isLine
      omega
    exact ⟨positive, by rwa [Nat.sub_add_cancel positive]⟩

/-- All bytes are a text when all lines are. -/
theorem isText_iff_forall_isLine {bytes : List UInt8} :
    IsText bytes ↔ ∀ number line, IsLine bytes number line → IsText line := by
  induction bytes using induction_on_newlines with
  | last piece within =>
      simp [isLine_iff_of_not_mem within]
  | more piece rest within inductionHypothesis =>
      rw [isText_append_newline_iff, inductionHypothesis]
      simp only [isLine_append_iff within]
      constructor
      · rintro ⟨first, others⟩ number line (⟨rfl, rfl⟩ | ⟨earlier, rfl, later⟩)
        · exact isText_lineOf_iff.2 first
        · exact others earlier line later
      · intro all
        constructor
        · exact isText_lineOf_iff.1 (all 1 _ (.inl ⟨rfl, rfl⟩))
        · intro number line isLine
          exact all (number + 1) line (.inr ⟨number, rfl, isLine⟩)

/-! ## Keeping -/

/-- Reads the bytes of a line with its number. -/
def readNumbered (numbered : List UInt8 × Nat) : Except LineError Line :=
  match decode? numbered.1 with
  | none => .error ⟨numbered.2, .invalidData⟩
  | some text => .ok ⟨numbered.2, text⟩

/-- The bytes of a line with its number. -/
def numberedBytes (line : Line) : List UInt8 × Nat :=
  (utf8 line.text.toList, line.number)

/-- Whether a line holds more than white space. -/
def isPrinted (line : Line) : Bool :=
  !Text.isBlank line.text.toList

theorem readNumbered_eq_ok_iff {numbered : List UInt8 × Nat} {line : Line} :
    readNumbered numbered = .ok line ↔ numbered = numberedBytes line := by
  constructor
  · intro taken
    unfold readNumbered at taken
    split at taken
    · cases taken
    · rename_i text decoded
      cases taken
      exact Prod.ext (decode?_eq_some_iff.1 decoded) rfl
  · rintro rfl
    have decoded : decode? (utf8 line.text.toList) = some line.text := decode?_eq_some_iff.2 rfl
    simp only [readNumbered, numberedBytes, decoded]

theorem readNumbered_eq_error_iff {numbered : List UInt8 × Nat} {error : LineError} :
    readNumbered numbered = .error error ↔
      ¬ IsText numbered.1 ∧ error = ⟨numbered.2, .invalidData⟩ := by
  rw [← decode?_eq_none_iff, readNumbered]
  cases decode? numbered.1 with
  | none =>
      simp [eq_comm]
  | some text =>
      simp

theorem numberedBytes_injective : Function.Injective numberedBytes := by
  rintro ⟨number, text⟩ ⟨otherNumber, otherText⟩ same
  obtain ⟨texts, rfl⟩ := Prod.mk.inj same
  obtain rfl : text = otherText := String.toList_injective (utf8_injective texts)
  rfl

/-- Lines are read in turn, and those that hold more than white space are kept. -/
theorem keepLines_eq_mapM (read : List Line) (number : Nat) (pieces : List (List UInt8)) :
    keepLines read number pieces =
      ((pieces.zipIdx number).mapM readNumbered).map (read.reverse ++ ·.filter isPrinted) := by
  induction pieces generalizing read number with
  | nil =>
      change keepLines read number [] = .ok (read.reverse ++ [])
      rw [keepLines, List.append_nil]
  | cons piece pieces inductionHypothesis =>
      rw [List.zipIdx_cons, keepLines]
      split
      · rename_i undecoded
        have failed : readNumbered (piece, number) = .error ⟨number, .invalidData⟩ :=
          readNumbered_eq_error_iff.2 ⟨decode?_eq_none_iff.1 undecoded, rfl⟩
        rw [mapM_cons_of_error failed]
        rfl
      · rename_i text decoded
        have taken : readNumbered (piece, number) = .ok ⟨number, text⟩ :=
          readNumbered_eq_ok_iff.2 (Prod.ext (decode?_eq_some_iff.1 decoded) rfl)
        rw [mapM_cons_of_ok taken, inductionHypothesis, inductionHypothesis]
        cases (pieces.zipIdx (number + 1)).mapM readNumbered with
        | error error =>
            simp [Except.map]
        | ok lines =>
            cases blank : Text.isBlank text.toList <;> simp [Except.map, isPrinted, blank]

/-- The lines that are kept from bytes that can be read. -/
theorem readLines_eq_ok_iff {bytes : ByteArray} {lines : List Line} :
    readLines bytes = .ok lines ↔
      ∃ all : List Line,
        (cutLines [] [] bytes.toList).zipIdx 1 = all.map numberedBytes ∧
          all.filter isPrinted = lines := by
  have numbered (pieces : List (List UInt8 × Nat)) (all : List Line) :
      List.Forall₂ (fun piece line => readNumbered piece = .ok line) pieces all ↔
        pieces = all.map numberedBytes := by
    simp only [readNumbered_eq_ok_iff]
    rw [← List.forall₂_map_right_iff (R := Eq), List.forall₂_eq_eq_eq]
  rw [readLines, keepLines_eq_mapM, map_eq_ok_iff]
  simp only [mapM_eq_ok_iff, numbered, List.reverse_nil, List.nil_append]

theorem readLines_eq_error_iff {bytes : ByteArray} {error : LineError} :
    readLines bytes = .error error ↔
      ∃ before bad after,
        (cutLines [] [] bytes.toList).zipIdx 1 = before ++ bad :: after ∧
          (∀ numbered ∈ before, IsText numbered.1) ∧
            ¬ IsText bad.1 ∧ error = ⟨bad.2, .invalidData⟩ := by
  have reads (numbered : List UInt8 × Nat) :
      (∃ line, readNumbered numbered = .ok line) ↔ IsText numbered.1 := by
    simp only [readNumbered_eq_ok_iff]
    constructor
    · rintro ⟨line, rfl⟩
      exact ⟨line.text.toList, rfl⟩
    · rintro ⟨text, same⟩
      exact ⟨⟨numbered.2, String.ofList text⟩, Prod.ext (by simp [numberedBytes, same]) rfl⟩
  rw [readLines, keepLines_eq_mapM, map_eq_error_iff, mapM_eq_error_iff]
  simp only [reads, readNumbered_eq_error_iff]

/-! ## What is read -/

theorem pairwise_zipIdx {α : Type} (items : List α) (start : Nat) :
    (items.zipIdx start).Pairwise (·.2 < ·.2) := by
  have numbers := List.pairwise_lt_range' (s := start) (n := items.length)
  rwa [← List.zipIdx_map_snd start items, List.pairwise_map] at numbers

theorem ne_nil_of_not_isText {bytes : List UInt8} (noText : ¬ IsText bytes) : bytes ≠ [] := by
  rintro rfl
  exact noText ⟨[], rfl⟩

theorem ne_nil_of_isPrinted {line : Line} (printed : isPrinted line = true) :
    utf8 line.text.toList ≠ [] := by
  intro empty
  have noText : line.text.toList = [] :=
    List.eq_nil_iff_forall_not_mem.2 (by simpa [utf8] using empty)
  simp [isPrinted, Text.isBlank, noText] at printed

/-- The lines that are read are the lines with something on them, in order. -/
theorem pairwise_and_mem_iff_of_readLines
    {bytes : ByteArray} {lines : List Line} (read : readLines bytes = .ok lines) :
    lines.Pairwise (·.number < ·.number) ∧
      ∀ line, line ∈ lines ↔
        IsLine bytes.toList line.number (utf8 line.text.toList) ∧ isPrinted line = true := by
  obtain ⟨all, numbered, rfl⟩ := readLines_eq_ok_iff.1 read
  constructor
  · have ascending := pairwise_zipIdx (cutLines [] [] bytes.toList) 1
    rw [numbered, List.pairwise_map] at ascending
    exact ascending.filter _
  · intro line
    rw [List.mem_filter]
    apply and_congr_left
    intro printed
    rw [← List.mem_map_of_injective numberedBytes_injective, ← numbered]
    exact mem_zipIdx_cutLines_iff (ne_nil_of_isPrinted printed)

/-- An error is about the first line that is no text. -/
theorem isLeast_of_readLines
    {bytes : ByteArray} {error : LineError} (failed : readLines bytes = .error error) :
    error.failure = .invalidData ∧
      (∃ line, IsLine bytes.toList error.line line ∧ ¬ IsText line) ∧
        ∀ number line, IsLine bytes.toList number line → ¬ IsText line → error.line ≤ number := by
  obtain ⟨before, bad, after, numbered, texts, noText, rfl⟩ := readLines_eq_error_iff.1 failed
  have ascending := pairwise_zipIdx (cutLines [] [] bytes.toList) 1
  have isLine_iff {number : Nat} {line : List UInt8} (unreadable : ¬ IsText line) :
      IsLine bytes.toList number line ↔ (line, number) ∈ before ++ bad :: after := by
    rw [← numbered, mem_zipIdx_cutLines_iff (ne_nil_of_not_isText unreadable)]
  rw [numbered, List.pairwise_append, List.pairwise_cons] at ascending
  refine ⟨rfl, ⟨bad.1, (isLine_iff noText).2 (by simp), noText⟩, ?_⟩
  intro number line isLine unreadable
  rcases List.mem_append.1 ((isLine_iff unreadable).1 isLine) with earlier | here
  · exact absurd (texts _ earlier) unreadable
  · rcases List.mem_cons.1 here with rfl | later
    · exact Nat.le_refl _
    · exact Nat.le_of_lt (ascending.2.1.1 _ later)

theorem exists_readLines_eq_ok_iff {bytes : ByteArray} :
    (∃ lines, readLines bytes = .ok lines) ↔ IsText bytes.toList := by
  rw [isText_iff_forall_isLine]
  constructor
  · rintro ⟨lines, read⟩ number line isLine
    obtain ⟨all, numbered, _⟩ := readLines_eq_ok_iff.1 read
    apply Classical.byContradiction
    intro noText
    have member := (mem_zipIdx_cutLines_iff (ne_nil_of_not_isText noText)).2 isLine
    rw [numbered] at member
    obtain ⟨found, _, same⟩ := List.mem_map.1 member
    cases same
    exact noText ⟨found.text.toList, rfl⟩
  · intro texts
    cases read : readLines bytes with
    | ok lines =>
        exact ⟨lines, rfl⟩
    | error error =>
        obtain ⟨_, ⟨line, isLine, noText⟩, _⟩ := isLeast_of_readLines read
        exact absurd (texts _ line isLine) noText

/-- A catalog is read when all of it is UTF-8. What is read are the lines with a character that is no
white space, in order and under their numbers. Otherwise the error is about the first line that is
not UTF-8. -/
theorem readLines_agrees_with_lines (bytes : ByteArray) :
    ((∃ lines, readLines bytes = .ok lines) ↔ bytes.IsValidUTF8) ∧
    (∀ lines, readLines bytes = .ok lines →
      lines.Pairwise (·.number < ·.number) ∧
        ∀ line, line ∈ lines ↔
          IsLine bytes.toList line.number (utf8 line.text.toList) ∧
            ∃ c ∈ line.text.toList, Text.isWhiteSpace c = false) ∧
    (∀ error, readLines bytes = .error error →
      error.failure = .invalidData ∧
        (∃ line, IsLine bytes.toList error.line line ∧ ¬ line.toByteArray.IsValidUTF8) ∧
          ∀ number line, IsLine bytes.toList number line →
            ¬ line.toByteArray.IsValidUTF8 → error.line ≤ number) := by
  have whole : bytes.toList.toByteArray = bytes := by
    rw [toList_eq_toList_data]
    exact ByteArray.ext (by simp)
  refine ⟨?_, ?_, ?_⟩
  · rw [exists_readLines_eq_ok_iff, isText_iff_isValidUTF8, whole]
  · intro lines read
    simpa [isPrinted, Text.isBlank_eq_false_iff] using pairwise_and_mem_iff_of_readLines read
  · intro error failed
    simpa only [← isText_iff_isValidUTF8] using isLeast_of_readLines failed

end CatalogFilter.Catalog
