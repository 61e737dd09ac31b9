import Screening.Json.Lexeme

/-!
# The pieces of a TOML text

`Toml.lexemes` cuts a TOML text into line ends, blanks, marks, quoted texts and bare runs of
characters. A bare run is a key, a part of a dotted key or a scalar, depending on where it stands.
Comments are dropped. Controls other than the tab are refused wherever they stand, and a carriage
return stands only in front of a line feed.
-/

namespace Screening.Toml

/-- A piece of a TOML text. -/
inductive Lexeme where
  | newline
  | blank
  /-- Characters that may stand in keys, numbers, dates and times. -/
  | bare (cs : List Char)
  /-- A quoted text; keys are never written over several lines. -/
  | text (s : List Char) (multiline : Bool)
  /-- A bracket, a brace, a comma or an equals sign. -/
  | mark (c : Char)

/-! ## Characters -/

/-- Characters that may stand in a comment or a quoted text. -/
def isPlain (c : Char) : Bool := c == '\t' || (0x20 ≤ c.toNat && c.toNat != 0x7F)

/-- Characters that may stand in a bare run. -/
def isBare (c : Char) : Bool :=
  c.isAlphanum || c == '_' || c == '-' || c == '+' || c == '.' || c == ':'

/-- Blanks that do not end a line. -/
def isSpace (c : Char) : Bool := c == ' ' || c == '\t'

/-! ## Escapes -/

/-- The character whose code point is written in hexadecimal digits. -/
def codePoint? (digits : List Char) : Option Char :=
  (Json.hexValue? digits).bind fun n => if n.isValidChar then some (Char.ofNat n) else none

/-- The character that a letter behind a backslash stands for. -/
def escaped? : Char → Option Char
  | 'b' => some '\x08'
  | 't' => some '\t'
  | 'n' => some '\n'
  | 'f' => some '\x0c'
  | 'r' => some '\r'
  | 'e' => some '\x1b'
  | '"' => some '"'
  | '\\' => some '\\'
  | _ => none

/-- How many hexadecimal digits follow a letter behind a backslash. -/
def escapeWidth? : Char → Option Nat
  | 'x' => some 2
  | 'u' => some 4
  | 'U' => some 8
  | _ => none

/-- The character that stands behind a backslash, and the rest. -/
def escape? : List Char → Option (Char × List Char)
  | [] => none
  | c :: cs =>
      match escapeWidth? c with
      | some width =>
          if cs.length < width then none
          else (codePoint? (cs.take width)).map fun e => (e, cs.drop width)
      | none => (escaped? c).map fun e => (e, cs)

theorem length_rest_escape? {cs rest : List Char} {c : Char}
    (h : escape? cs = some (c, rest)) : rest.length < cs.length := by
  cases cs with
  | nil => simp [escape?] at h
  | cons d cs =>
    simp only [escape?] at h
    split at h
    · split at h
      · simp at h
      · obtain ⟨e, _, he⟩ := Option.map_eq_some_iff.1 h
        simp only [Prod.mk.injEq] at he
        simp only [← he.2, List.length_drop, List.length_cons]
        omega
    · obtain ⟨e, _, he⟩ := Option.map_eq_some_iff.1 h
      simp only [Prod.mk.injEq] at he
      simp [← he.2]

/-- A line end at the front of a text is skipped. -/
def skipNewline : List Char → List Char
  | '\n' :: cs => cs
  | '\r' :: '\n' :: cs => cs
  | cs => cs

/-- Whether a line end stands at the front of a text. -/
def startsWithNewline : List Char → Bool
  | '\n' :: _ => true
  | '\r' :: '\n' :: _ => true
  | _ => false

/-- A backslash at the end of a line joins the line to what comes next: the line end and the
blanks before and behind it are skipped, if that is what stands here. -/
def joinLines? (cs : List Char) : Option (List Char) :=
  let line := cs.dropWhile isSpace
  if startsWithNewline line then
    some (line.dropWhile fun c => isSpace c || c == '\n' || c == '\r')
  else none

theorem length_skipNewline (cs : List Char) : (skipNewline cs).length ≤ cs.length := by
  unfold skipNewline
  split
  · simp
  · simp only [List.length_cons]
    omega
  · exact Nat.le_refl _

theorem length_joinLines? {cs rest : List Char} (h : joinLines? cs = some rest) :
    rest.length ≤ cs.length := by
  simp only [joinLines?, Option.ite_none_right_eq_some, Option.some.injEq] at h
  rw [← h.2]
  exact Nat.le_trans (List.dropWhile_sublist _).length_le (List.dropWhile_sublist _).length_le

/-! ## Quoted texts -/

/-- The contents of a text between double quotes, up to the closing one, and the rest. -/
def basic? (cs : List Char) : Option (List Char × List Char) :=
  match cs with
  | [] => none
  | '"' :: cs => some ([], cs)
  | '\\' :: cs =>
      match _h : escape? cs with
      | some (c, rest) => (basic? rest).map fun (inside, rest) => (c :: inside, rest)
      | none => none
  | c :: cs =>
      if isPlain c then (basic? cs).map fun (inside, rest) => (c :: inside, rest) else none
termination_by cs.length
decreasing_by
  · have := length_rest_escape? _h
    simp only [List.length_cons]
    omega
  · simp

theorem exists_of_map_cons {split : Option (List Char × List Char)} {c : Char}
    {inside rest : List Char}
    (h : split.map (fun (inside, rest) => (c :: inside, rest)) = some (inside, rest)) :
    ∃ tail, split = some (tail, rest) := by
  obtain ⟨⟨tail, _⟩, hsplit, heq⟩ := Option.map_eq_some_iff.1 h
  simp only [Prod.mk.injEq] at heq
  exact ⟨tail, heq.2 ▸ hsplit⟩

theorem length_rest_basic? {cs inside rest : List Char} (h : basic? cs = some (inside, rest)) :
    rest.length ≤ cs.length := by
  fun_induction basic? cs generalizing inside rest with
  | case1 | case4 | case6 => simp at h
  | case2 => simp_all
  | case3 _ _ _ hescape ih =>
    obtain ⟨_, hrest⟩ := exists_of_map_cons h
    have := ih hrest
    have := length_rest_escape? hescape
    simp only [List.length_cons]
    omega
  | case5 _ _ _ _ _ ih =>
    obtain ⟨_, hrest⟩ := exists_of_map_cons h
    exact Nat.le_succ_of_le (ih hrest)

/-- The contents of a text between single quotes, up to the closing one, and the rest. -/
def literal? (cs : List Char) : Option (List Char × List Char) :=
  match cs.dropWhile fun c => isPlain c && c != '\'' with
  | '\'' :: rest => some (cs.takeWhile fun c => isPlain c && c != '\'', rest)
  | _ => none

theorem length_rest_literal? {cs inside rest : List Char} (h : literal? cs = some (inside, rest)) :
    rest.length ≤ cs.length := by
  have hle := (List.dropWhile_sublist (l := cs) fun c => isPlain c && c != '\'').length_le
  unfold literal? at h
  split at h
  · rename_i r hr
    simp only [Option.some.injEq, Prod.mk.injEq] at h
    rw [hr, List.length_cons] at hle
    rw [← h.2]
    omega
  · simp at h

/-- The contents of a text over several lines between three quotes, and the rest. Of up to five
quotes the last three close the text. Between double quotes (`escapes`) a backslash escapes. -/
def multiline? (escapes : Bool) (quote : Char) (cs : List Char) : Option (List Char × List Char) :=
  match cs with
  | [] => none
  | c :: cs =>
      if c = quote then
        match (cs.takeWhile (· == quote)).length with
        | 0 | 1 => (multiline? escapes quote cs).map fun (inside, rest) => (c :: inside, rest)
        | 2 => some ([], cs.drop 2)
        | 3 => some ([c], cs.drop 3)
        | _ => some ([c, c], cs.drop 4)
      else if c = '\\' && escapes then
        match _hj : joinLines? cs with
        | some rest => multiline? escapes quote rest
        | none =>
            match _h : escape? cs with
            | some (c, rest) =>
                (multiline? escapes quote rest).map fun (inside, rest) => (c :: inside, rest)
            | none => none
      else if isPlain c || c = '\n' || (c = '\r' && startsWithNewline (c :: cs)) then
        (multiline? escapes quote cs).map fun (inside, rest) => (c :: inside, rest)
      else none
termination_by cs.length
decreasing_by
  all_goals simp only [List.length_cons]
  · omega
  · have := length_joinLines? _hj
    omega
  · have := length_rest_escape? _h
    omega
  · omega

theorem length_rest_multiline? {escapes : Bool} {quote : Char} {cs inside rest : List Char}
    (h : multiline? escapes quote cs = some (inside, rest)) : rest.length ≤ cs.length := by
  fun_induction multiline? escapes quote cs generalizing inside rest with
  | case1 => simp at h
  | case2 _ _ ih | case3 _ _ ih | case10 _ _ _ _ _ ih =>
    obtain ⟨_, hrest⟩ := exists_of_map_cons h
    exact Nat.le_succ_of_le (ih hrest)
  | case4 | case5 | case6 =>
    simp only [Option.some.injEq, Prod.mk.injEq] at h
    simp only [← h.2, List.length_drop, List.length_cons]
    omega
  | case7 _ _ _ _ _ hjoin ih =>
    exact Nat.le_succ_of_le (Nat.le_trans (ih h) (length_joinLines? hjoin))
  | case8 _ _ _ _ _ _ _ hescape ih =>
    obtain ⟨_, hrest⟩ := exists_of_map_cons h
    have := ih hrest
    have := length_rest_escape? hescape
    simp only [List.length_cons]
    omega
  | case9 | case11 => simp at h

/-- The text that a quote `c` opens: its contents, whether it may run over several lines, and the
rest. -/
def quoted? (c : Char) (cs : List Char) : Option (List Char × Bool × List Char) :=
  if cs.take 2 == [c, c] then
    (multiline? (c == '"') c (skipNewline (cs.drop 2))).map fun (s, rest) => (s, true, rest)
  else (if c = '"' then basic? cs else literal? cs).map fun (s, rest) => (s, false, rest)

theorem length_rest_quoted? {c : Char} {cs inside rest : List Char} {multiline : Bool}
    (h : quoted? c cs = some (inside, multiline, rest)) : rest.length ≤ cs.length := by
  unfold quoted? at h
  split at h
  · obtain ⟨⟨_, r⟩, hr, heq⟩ := Option.map_eq_some_iff.1 h
    simp only [Prod.mk.injEq] at heq
    have := length_rest_multiline? hr
    have := length_skipNewline (cs.drop 2)
    simp only [List.length_drop] at this
    rw [← heq.2.2]
    omega
  · obtain ⟨⟨_, r⟩, hr, heq⟩ := Option.map_eq_some_iff.1 h
    simp only [Prod.mk.injEq] at heq
    rw [← heq.2.2]
    split at hr
    · exact length_rest_basic? hr
    · exact length_rest_literal? hr

/-! ## The whole text -/

/-- Whether a character is a mark. -/
def isMark (c : Char) : Bool :=
  c == '[' || c == ']' || c == '\x7b' || c == '\x7d' || c == ',' || c == '='

/-- The pieces of a TOML text. -/
def lexemes (cs : List Char) : Option (List Lexeme) :=
  match cs with
  | [] => some []
  | c :: cs =>
      if startsWithNewline (c :: cs) then
        (lexemes (if c = '\n' then cs else cs.drop 1)).map (.newline :: ·)
      else if isSpace c then (lexemes (cs.dropWhile isSpace)).map (.blank :: ·)
      else if c = '#' then lexemes (cs.dropWhile isPlain)
      else if isMark c then (lexemes cs).map (.mark c :: ·)
      else if c = '"' || c = '\'' then
        match _h : quoted? c cs with
        | some (s, multiline, rest) => (lexemes rest).map (.text s multiline :: ·)
        | none => none
      else if isBare c then
        (lexemes (cs.dropWhile isBare)).map (.bare (c :: cs.takeWhile isBare) :: ·)
      else none
termination_by cs.length
decreasing_by
  all_goals simp only [List.length_cons]
  · split
    · omega
    · simp only [List.length_drop]
      omega
  · have := (List.dropWhile_sublist isSpace (l := cs)).length_le
    omega
  · have := (List.dropWhile_sublist isPlain (l := cs)).length_le
    omega
  · omega
  · have := length_rest_quoted? _h
    omega
  · have := (List.dropWhile_sublist isBare (l := cs)).length_le
    omega

end Screening.Toml
