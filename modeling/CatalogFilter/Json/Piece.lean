import CatalogFilter.Json.Number

/-!
# The pieces of a JSON text

A JSON text is cut into marks and scalars. A string is read with its escapes; a surrogate escape
counts only together with its partner, and control characters have to be escaped.
-/

namespace CatalogFilter.Json

inductive Piece where
  | openBrace
  | closeBrace
  | openBracket
  | closeBracket
  | comma
  | colon
  | scalar (value : Json)

/-- The four characters that JSON skips between pieces. -/
def isSpace (c : Char) : Bool :=
  c = ' ' || c = '\t' || c = '\n' || c = '\r'

/-! ## Strings -/

def hexDigit? (c : Char) : Option Nat :=
  if c.isDigit then
    some (c.toNat - '0'.toNat)
  else if 'a' ≤ c ∧ c ≤ 'f' then
    some (c.toNat - 'a'.toNat + 10)
  else if 'A' ≤ c ∧ c ≤ 'F' then
    some (c.toNat - 'A'.toNat + 10)
  else
    none

/-- The 16-bit unit of four hexadecimal digits. -/
def codeUnit? (digits : List Char) : Option Nat :=
  digits.foldlM (fun unit digit => (hexDigit? digit).map (16 * unit + ·)) 0

def isHighSurrogate (unit : Nat) : Bool :=
  0xD800 ≤ unit && unit < 0xDC00

def isLowSurrogate (unit : Nat) : Bool :=
  0xDC00 ≤ unit && unit < 0xE000

/-- The character of a surrogate pair. -/
def pairChar (high low : Nat) : Char :=
  Char.ofNat (0x10000 + (high - 0xD800) * 0x400 + (low - 0xDC00))

/-- The character that a backslash and this letter stand for. -/
def simpleEscape? (c : Char) : Option Char :=
  match c with
  | '"' => some '"'
  | '\\' => some '\\'
  | '/' => some '/'
  | 'b' => some '\x08'
  | 'f' => some '\x0c'
  | 'n' => some '\n'
  | 'r' => some '\r'
  | 't' => some '\t'
  | _ => none

/-- The character of an escape whose backslash is gone, and what follows. -/
def escape? : List Char → Option (Char × List Char)
  | 'u' :: a :: b :: c :: d :: rest => do
      let unit ← codeUnit? [a, b, c, d]
      if isLowSurrogate unit then
        none
      else if isHighSurrogate unit then
        match rest with
        | '\\' :: 'u' :: e :: f :: g :: h :: rest =>
            let low ← codeUnit? [e, f, g, h]
            if isLowSurrogate low then some (pairChar unit low, rest) else none
        | _ => none
      else
        some (Char.ofNat unit, rest)
  | c :: rest => (simpleEscape? c).map (·, rest)
  | [] => none

theorem length_of_escape?
    {text rest : List Char} {c : Char}
    (found : escape? text = some (c, rest)) :
    rest.length < text.length := by
  unfold escape? at found
  split at found
  · rename_i a b c d tail
    simp only [Option.bind_eq_bind, Option.bind_eq_some_iff] at found
    obtain ⟨unit, _, found⟩ := found
    split at found
    · simp at found
    · split at found
      · split at found
        · rename_i e f g h after
          simp only [Option.bind_eq_some_iff] at found
          obtain ⟨low, _, found⟩ := found
          split at found
          · simp only [Option.some.injEq, Prod.mk.injEq] at found
            obtain ⟨_, rfl⟩ := found
            simp only [List.length_cons]
            omega
          · simp at found
        · simp at found
      · simp only [Option.some.injEq, Prod.mk.injEq] at found
        obtain ⟨_, rfl⟩ := found
        simp only [List.length_cons]
        omega
  · simp only [Option.map_eq_some_iff, Prod.mk.injEq] at found
    obtain ⟨_, _, _, rfl⟩ := found
    simp
  · simp at found

/-- The rest of a string after its first quote; `read` holds its characters so far, the last one
first. -/
def stringRest? (read : List Char) (text : List Char) : Option (String × List Char) :=
  match text with
  | [] => none
  | '"' :: rest => some (String.ofList read.reverse, rest)
  | '\\' :: rest =>
      match _found : escape? rest with
      | none => none
      | some (c, after) => stringRest? (c :: read) after
  | c :: rest => if c.toNat < 0x20 then none else stringRest? (c :: read) rest
termination_by text.length
decreasing_by
  · have shorter := length_of_escape? _found
    simp only [List.length_cons]
    omega
  · simp

theorem length_of_stringRest?
    {read text rest : List Char} {value : String}
    (found : stringRest? read text = some (value, rest)) :
    rest.length < text.length := by
  fun_induction stringRest? read text with
  | case1 => simp at found
  | case2 read rest' =>
      simp only [Option.some.injEq, Prod.mk.injEq] at found
      obtain ⟨_, rfl⟩ := found
      simp
  | case3 => simp at found
  | case4 read rest' c after escaped inductionHypothesis =>
      have shorter := length_of_escape? escaped
      have shortest := inductionHypothesis found
      simp only [List.length_cons]
      omega
  | case5 => simp at found
  | case6 read c rest' _ _ _ inductionHypothesis =>
      have shorter := inductionHypothesis found
      simp only [List.length_cons]
      omega

/-! ## Pieces -/

/-- The characters that a number may be written with. -/
def isNumberChar (c : Char) : Bool :=
  c.isDigit || c = '-' || c = '+' || c = '.' || c = 'e' || c = 'E'

/-- The number at the front. -/
def number? (text : List Char) : Option (Piece × List Char) :=
  match text.takeWhile isNumberChar with
  | [] => none
  | spelled =>
      (JsonNumber.read? spelled).map fun value =>
        (.scalar (.number value), text.dropWhile isNumberChar)

/-- The piece at the front and what follows it. -/
def piece? : List Char → Option (Piece × List Char)
  | '\x7b' :: rest => some (.openBrace, rest)
  | '\x7d' :: rest => some (.closeBrace, rest)
  | '[' :: rest => some (.openBracket, rest)
  | ']' :: rest => some (.closeBracket, rest)
  | ',' :: rest => some (.comma, rest)
  | ':' :: rest => some (.colon, rest)
  | '"' :: rest => (stringRest? [] rest).map fun (value, after) => (.scalar (.string value), after)
  | 'n' :: 'u' :: 'l' :: 'l' :: rest => some (.scalar .null, rest)
  | 't' :: 'r' :: 'u' :: 'e' :: rest => some (.scalar (.boolean true), rest)
  | 'f' :: 'a' :: 'l' :: 's' :: 'e' :: rest => some (.scalar (.boolean false), rest)
  | text => number? text

theorem length_of_number?
    {text rest : List Char} {piece : Piece}
    (found : number? text = some (piece, rest)) :
    rest.length < text.length := by
  unfold number? at found
  split at found
  · simp at found
  · rename_i nonempty
    simp only [Option.map_eq_some_iff, Prod.mk.injEq] at found
    obtain ⟨_, _, _, rfl⟩ := found
    have whole := congrArg List.length
      (List.takeWhile_append_dropWhile (p := isNumberChar) (l := text))
    have positive := List.length_pos_iff.2 nonempty
    rw [List.length_append] at whole
    omega

theorem length_of_piece?
    {text rest : List Char} {piece : Piece}
    (found : piece? text = some (piece, rest)) :
    rest.length < text.length := by
  unfold piece? at found
  split at found
  case h_7 =>
    simp only [Option.map_eq_some_iff, Prod.mk.injEq] at found
    obtain ⟨⟨value, after⟩, string, _, rfl⟩ := found
    have shorter := length_of_stringRest? string
    simp only [List.length_cons]
    omega
  case h_11 =>
    exact length_of_number? found
  all_goals
    simp only [Option.some.injEq, Prod.mk.injEq] at found
    obtain ⟨_, rfl⟩ := found
    simp only [List.length_cons]
    omega

/-- Cuts a text into pieces; `read` holds those before it, the last one first. -/
def piecesFrom? (read : List Piece) (text : List Char) : Option (List Piece) :=
  match text with
  | [] => some read.reverse
  | c :: rest =>
      if isSpace c then
        piecesFrom? read rest
      else
        match _found : piece? (c :: rest) with
        | none => none
        | some (piece, after) => piecesFrom? (piece :: read) after
termination_by text.length
decreasing_by
  · simp
  · exact length_of_piece? _found

def pieces? (text : String) : Option (List Piece) :=
  piecesFrom? [] text.toList

end CatalogFilter.Json
