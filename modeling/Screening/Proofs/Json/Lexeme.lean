import Mathlib.Data.List.Basic
import Screening.Json.Printer
import Screening.Json.Reader
import Screening.Proofs.Binary64.Display
import Screening.Proofs.Json

/-!
# The pieces of a written JSON value

The compact form of a value is cut into its pieces again (`Json.cutInto_render`): marks and texts
are cut off whatever stands behind them, and so are numbers and words if no number or word goes on
there (`Json.Stops`).

What is written between double quotes gives the text (`Json.exists_pieces?_flatMap_escape`), and an
integer of 64 bits is read as that integer (`Json.number?_integerChars`). A floating-point number
may be read as one of its neighbours, so that it is a condition on a value that its numbers are read
as they are written (`Json.ReadsBack`).
-/

namespace Screening.Json

open Binary64

/-- No number and no word goes on into `cs`. -/
def Stops (cs : List Char) : Prop :=
  ∀ c ∈ cs.head?, isNumberPart c = false ∧ c.isAlpha = false

/-- In front of whatever stops it, a text is cut into these pieces. -/
def CutInto (cs : List Char) (pieces : List Lexeme) : Prop :=
  ∀ rest, Stops rest → lexemes (cs ++ rest) = (lexemes rest).map (pieces ++ ·)

/-! ## Marks -/

variable {c : Char} {mark : Lexeme}

/-- A mark is no blank and stops what stands in front of it. -/
theorem stops_of_mark? (h : mark? c = some mark) (cs : List Char) :
    (c == ' ' || c == '\t' || c == '\n' || c == '\r') = false ∧ Stops (c :: cs) := by
  have hc : (c == ' ' || c == '\t' || c == '\n' || c == '\r') = false ∧
      isNumberPart c = false ∧ c.isAlpha = false := by
    unfold mark? at h
    split at h <;> first | decide | cases h
  exact ⟨hc.1, fun d hd => by cases hd; exact hc.2⟩

theorem lexemes_mark (h : mark? c = some mark) (cs : List Char) :
    lexemes (c :: cs) = (lexemes cs).map (mark :: ·) := by
  rw [lexemes, (stops_of_mark? h cs).1, if_neg Bool.false_ne_true, h]

theorem CutInto.nil : CutInto [] [] := fun _ _ => Option.map_id'.symm

/-- Two texts with a mark between them. -/
theorem CutInto.append_mark {cs cs' : List Char} {pieces pieces' : List Lexeme}
    (h : CutInto cs pieces) (hmark : mark? c = some mark) (h' : CutInto cs' pieces') :
    CutInto (cs ++ c :: cs') (pieces ++ mark :: pieces') := by
  intro rest hrest
  rw [List.append_assoc, List.cons_append, h _ (stops_of_mark? hmark _).2, lexemes_mark hmark,
    h' rest hrest]
  simp only [Option.map_map, Function.comp_def, List.append_assoc, List.cons_append]

/-- A text between an opening and a closing mark. -/
theorem CutInto.enclosed {c' : Char} {mark' : Lexeme} {cs : List Char} {pieces : List Lexeme}
    (hopen : mark? c = some mark) (h : CutInto cs pieces) (hclose : mark? c' = some mark') :
    CutInto (c :: cs ++ [c']) (mark :: pieces ++ [mark']) :=
  CutInto.nil.append_mark hopen (h.append_mark hclose .nil)

/-! ## Texts -/

theorem hexValue?_control : ∀ n < 0x20,
    hexValue? ['0', '0', hexDigit (n / 16), hexDigit n] = some n := by
  decide

/-- A character that is not escaped is a part of its own. -/
theorem pieces?_cons {c : Char} (hquote : c ≠ '"') (hbackslash : c ≠ '\\')
    (hcontrol : ¬ c.toNat < 0x20) (cs : List Char) :
    pieces? (c :: cs) = (pieces? cs).map fun (pieces, rest) => (.char c :: pieces, rest) := by
  rw [pieces?, if_neg hcontrol]
  · exact hquote
  · exact fun _ _ _ _ _ h _ => hbackslash h
  · exact fun _ _ h _ => hbackslash h

theorem assemble?_control {n : Nat} (h : n < 0x20) (rest : List Piece) :
    assemble? (.unit n :: rest) = (assemble? rest).map (Char.ofNat n :: ·) := by
  conv => lhs; unfold assemble?
  rw [if_neg (by omega), if_neg (by omega)]

/-- What is written of a character is one part of a text, and gives that character. -/
theorem exists_pieces?_escape (c : Char) :
    ∃ piece,
      (∀ cs, pieces? (escape c ++ cs) =
        (pieces? cs).map fun (pieces, rest) => (piece :: pieces, rest)) ∧
      ∀ rest, assemble? (piece :: rest) = (assemble? rest).map (c :: ·) := by
  have hshort : ∀ {letter : Char}, letter ≠ 'u' → escaped? letter = some c → ∀ cs,
      pieces? ('\\' :: letter :: cs) =
        (pieces? cs).map fun (pieces, rest) => (.char c :: pieces, rest) := by
    intro letter hletter hc cs
    rw [pieces?, hc, Option.map_eq_bind]
    · rfl
    · exact fun _ _ _ _ _ h _ => hletter h
  unfold escape
  split
  -- seven characters are written as a backslash and a letter
  iterate 7 exact ⟨_, hshort (by decide) rfl, fun _ => rfl⟩
  next hquote hbackslash _ _ _ _ _ =>
    split
    · next hcontrol =>
      refine ⟨.unit c.toNat, fun cs => ?_, fun rest => ?_⟩
      · simp only [List.cons_append, List.nil_append, pieces?, hexValue?_control _ hcontrol, bind,
          pure, Option.bind_some, Option.map_eq_bind]
        rfl
      · rw [assemble?_control hcontrol, Char.ofNat_toNat]
    · next hcontrol => exact ⟨_, pieces?_cons hquote hbackslash hcontrol, fun _ => rfl⟩

/-- What is written between double quotes is read up to the closing one and gives the text. -/
theorem exists_pieces?_flatMap_escape (cs : List Char) :
    ∃ pieces, assemble? pieces = some cs ∧
      ∀ rest, pieces? (cs.flatMap escape ++ '"' :: rest) = some (pieces, rest) := by
  induction cs with
  | nil => exact ⟨[], rfl, fun _ => rfl⟩
  | cons c cs ih =>
    obtain ⟨pieces, hassemble, hpieces⟩ := ih
    obtain ⟨piece, hpiece, hchar⟩ := exists_pieces?_escape c
    refine ⟨piece :: pieces, ?_, fun rest => ?_⟩
    · rw [hchar, hassemble, Option.map_some]
    · rw [List.flatMap_cons, List.append_assoc, hpiece, hpieces, Option.map_some]

/-- A text between double quotes is one piece, whatever stands behind it. -/
theorem cutInto_quote (s : String) : CutInto (quote s) [.scalar (.text s)] := by
  intro rest _
  obtain ⟨pieces, hassemble, hpieces⟩ := exists_pieces?_flatMap_escape s.toList
  have happend : quote s ++ rest = '"' :: (s.toList.flatMap escape ++ '"' :: rest) := by
    rw [quote, List.cons_append, List.cons_append, List.append_assoc]
    rfl
  rw [happend, lexemes, if_neg (by decide), show mark? '"' = none from rfl]
  dsimp only
  rw [if_pos rfl]
  split
  · next pieces' rest' h =>
    rw [hpieces] at h
    cases h
    rw [hassemble, Option.map_some, String.ofList_toList]
    rfl
  · next h =>
    rw [hpieces] at h
    cases h

/-! ## Words and numbers -/

/-- A piece that begins with a part of a number or with a letter is a number or a word: no blank, no
mark and no double quote is either. -/
theorem lexemes_scalar {c : Char} (h : isNumberPart c = true ∨ c.isAlpha = true) (cs : List Char) :
    lexemes (c :: cs) =
      if isNumberPart c && c != 'e' && c != 'E' then
        (number? (c :: cs.takeWhile isNumberPart)).bind fun d =>
          (lexemes (cs.dropWhile isNumberPart)).map (.scalar d :: ·)
      else
        (word? (c :: cs.takeWhile Char.isAlpha)).bind fun d =>
          (lexemes (cs.dropWhile Char.isAlpha)).map (.scalar d :: ·) := by
  have hne : ∀ {c'}, isNumberPart c' = false ∧ c'.isAlpha = false → c ≠ c' := by
    rintro c' ⟨hnumber, hletter⟩ rfl
    rw [hnumber, hletter] at h
    exact h.elim Bool.false_ne_true Bool.false_ne_true
  have hblank : (c == ' ' || c == '\t' || c == '\n' || c == '\r') = false := by
    simp only [Bool.or_eq_false_iff, beq_eq_false_iff_ne]
    exact ⟨⟨⟨hne (by decide), hne (by decide)⟩, hne (by decide)⟩, hne (by decide)⟩
  have hmark : mark? c = none := by
    unfold mark?
    split <;> first | rfl | exact absurd rfl (hne (by decide))
  rw [lexemes, hblank, if_neg Bool.false_ne_true, hmark]
  dsimp only
  rw [if_neg (hne (by decide))]
  rfl

theorem cutInto_word {word : List Char} {d : Document} (h : word? word = some d) :
    CutInto word [.scalar d] := by
  intro rest hrest
  have hword : word = ['n', 'u', 'l', 'l'] ∨ word = ['t', 'r', 'u', 'e'] ∨
      word = ['f', 'a', 'l', 's', 'e'] := by
    unfold word? at h
    split at h
    · next hword => exact .inl (beq_iff_eq.1 hword)
    split at h
    · next hword => exact .inr (.inl (beq_iff_eq.1 hword))
    split at h
    · next hword => exact .inr (.inr (beq_iff_eq.1 hword))
    · cases h
  obtain ⟨c, cs, rfl, hc, hcs⟩ : ∃ c cs, word = c :: cs ∧ (c = 'n' ∨ c = 't' ∨ c = 'f') ∧
      ∀ c ∈ cs, c.isAlpha = true := by
    rcases hword with rfl | rfl | rfl
    · exact ⟨_, _, rfl, .inl rfl, List.all_eq_true.1 rfl⟩
    · exact ⟨_, _, rfl, .inr (.inl rfl), List.all_eq_true.1 rfl⟩
    · exact ⟨_, _, rfl, .inr (.inr rfl), List.all_eq_true.1 rfl⟩
  obtain ⟨htake, hdrop⟩ := Text.takeWhile_dropWhile_append hcs fun c hc => (hrest c hc).2
  have hfirst : isNumberPart c = false ∧ c.isAlpha = true := by
    rcases hc with rfl | rfl | rfl <;> decide
  rw [List.cons_append, lexemes_scalar (.inr hfirst.2), hfirst.1, Bool.false_and, Bool.false_and,
    if_neg Bool.false_ne_true, htake, hdrop, h]
  rfl

theorem isNumberPart_of_isDigit {c : Char} (h : c.isDigit = true) : isNumberPart c = true := by
  simp only [isNumberPart, h, Bool.true_or]

/-- Digits are parts of a number, so only what stands behind them matters. -/
theorem forall_isNumberPart_of_dropWhile {cs : List Char}
    (h : ∀ c ∈ cs.dropWhile Char.isDigit, isNumberPart c = true) :
    ∀ c ∈ cs, isNumberPart c = true := by
  rw [← List.takeWhile_append_dropWhile (p := Char.isDigit) (l := cs), List.forall_mem_append]
  exact ⟨fun c hc => isNumberPart_of_isDigit (List.all_eq_true.1 List.all_takeWhile c hc), h⟩

theorem forall_isNumberPart_of_readExponent? {cs : List Char} {e : Int}
    (h : readExponent? cs = some e) : ∀ c ∈ cs, isNumberPart c = true := by
  cases cs with
  | nil => exact nofun
  | cons c cs =>
    rw [readExponent?] at h
    split at h
    · next hc =>
      dsimp only [splitDigits] at h
      split at h
      · cases h
      · next hdigits =>
        simp only [Bool.or_eq_true, not_or, Bool.not_eq_true', Bool.not_eq_false,
          List.isEmpty_iff] at hdigits
        have hunsigned : ∀ c ∈ (splitSign cs).2, isNumberPart c = true :=
          forall_isNumberPart_of_dropWhile (hdigits.2 ▸ nofun)
        have hcs : ∀ c ∈ cs, isNumberPart c = true := by
          revert hunsigned
          unfold splitSign
          split
          · exact fun h => List.forall_mem_cons.2 ⟨rfl, h⟩
          · exact fun h => List.forall_mem_cons.2 ⟨rfl, h⟩
          · exact id
        refine List.forall_mem_cons.2 ⟨?_, hcs⟩
        rw [Bool.or_eq_true, beq_iff_eq, beq_iff_eq] at hc
        rcases hc with rfl | rfl <;> rfl
    · cases h

theorem forall_isNumberPart_of_fraction? {cs digits rest : List Char}
    (h : fraction? cs = some (digits, rest)) (hrest : ∀ c ∈ rest, isNumberPart c = true) :
    ∀ c ∈ cs, isNumberPart c = true := by
  unfold fraction? at h
  split at h
  · dsimp only [splitDigits] at h
    split at h
    · cases h
    · cases h
      exact List.forall_mem_cons.2 ⟨rfl, forall_isNumberPart_of_dropWhile hrest⟩
  · cases h
    exact hrest

/-- A number begins with its sign or a digit and runs over the characters of numbers. -/
theorem exists_eq_cons_of_number? {cs : List Char} {d : Document} (h : number? cs = some d) :
    ∃ c cs', cs = c :: cs' ∧ (c = '-' ∨ c.isDigit = true) ∧ ∀ c ∈ cs', isNumberPart c = true := by
  unfold number? at h
  split at h
  next negative unsigned hsign =>
  dsimp only [splitDigits] at h
  split at h
  · cases h
  next hwhole =>
  rw [Bool.or_eq_true, not_or, List.isEmpty_iff] at hwhole
  have hafter : ∀ c ∈ unsigned.dropWhile Char.isDigit, isNumberPart c = true := by
    split at h
    · next hempty =>
      rw [List.isEmpty_iff] at hempty
      exact hempty ▸ nofun
    · obtain ⟨⟨fraction, afterFraction⟩, hfraction, h⟩ := Option.bind_eq_some_iff.1 h
      obtain ⟨e, he, -⟩ := Option.bind_eq_some_iff.1 h
      exact forall_isNumberPart_of_fraction? hfraction (forall_isNumberPart_of_readExponent? he)
  have hparts := forall_isNumberPart_of_dropWhile hafter
  split at hsign
  · cases hsign
    exact ⟨_, _, rfl, .inl rfl, hparts⟩
  · cases hsign
    cases cs with
    | nil => exact absurd rfl hwhole.1
    | cons c cs =>
      refine ⟨c, cs, rfl, .inr ?_, (List.forall_mem_cons.1 hparts).2⟩
      by_contra hc
      exact hwhole.1 (List.takeWhile_cons_of_neg hc)

theorem cutInto_number {cs : List Char} {d : Document} (h : number? cs = some d) :
    CutInto cs [.scalar d] := by
  intro rest hrest
  obtain ⟨c, cs, rfl, hc, hcs⟩ := exists_eq_cons_of_number? h
  obtain ⟨htake, hdrop⟩ := Text.takeWhile_dropWhile_append hcs fun c hc => (hrest c hc).1
  have hpart : isNumberPart c = true ∧ c ≠ 'e' ∧ c ≠ 'E' := by
    rcases hc with rfl | hc
    · decide
    · refine ⟨isNumberPart_of_isDigit hc, ?_, ?_⟩ <;> rintro rfl <;> cases hc
  rw [List.cons_append, lexemes_scalar (.inl hpart.1), if_pos (by simp [hpart]), htake, hdrop, h]
  rfl

/-- Digits without a zero in front are an integer literal, with or without a sign. -/
theorem number?_signed (negative : Bool) {digits : List Char} (hne : digits ≠ [])
    (hd : ∀ c ∈ digits, c.isDigit = true) (hzero : digits.head? = some '0' → digits.length = 1) :
    number? (signed negative digits) = some (integerLiteral negative digits) := by
  have hsplit : splitDigits digits = (digits, []) := by
    rw [splitDigits, List.takeWhile_eq_self_iff.2 hd, List.dropWhile_eq_nil_iff.2 hd]
  have hleading :
      (digits.isEmpty || digits.head? == some '0' && decide (1 < digits.length)) = false := by
    rw [List.isEmpty_eq_false_iff.2 hne, Bool.false_or, Bool.and_eq_false_imp, beq_iff_eq]
    exact fun h => decide_eq_false (Nat.not_lt.2 (Nat.le_of_eq (hzero h)))
  unfold number?
  split
  next negative' unsigned hsign =>
  obtain ⟨rfl, rfl⟩ : negative' = negative ∧ unsigned = digits := by
    cases negative with
    | true =>
      cases hsign
      exact ⟨rfl, rfl⟩
    | false =>
      unfold signed at hsign
      rw [if_neg Bool.false_ne_true] at hsign
      split at hsign
      · exact absurd (hd _ (.head _)) (by decide)
      · cases hsign
        exact ⟨rfl, rfl⟩
  rw [hsplit]
  dsimp only
  rw [hleading]
  rfl

/-- Only zero is written with a zero in front. -/
theorem head?_toDigits_ne {n : Nat} (hn : n ≠ 0) : (Nat.toDigits 10 n).head? ≠ some '0' := by
  induction n using Nat.base_induction 10 (by decide) with
  | single m hm =>
    rw [Nat.toDigits_of_lt_base hm, List.head?_cons, Ne, Option.some_inj, Nat.digitChar_eq_zero]
    exact hn
  | digit m k hk hm ih =>
    rw [← Nat.toDigits_append_toDigits (by decide) hm hk,
      List.head?_append_of_ne_nil _ Nat.toDigits_ne_nil]
    exact ih (Nat.ne_of_gt hm)

/-- An integer of 64 bits, with or without a sign, is written as a number and read as that
integer. -/
theorem number?_integerChars {i : Int} (hlow : -0x8000000000000000 ≤ i)
    (hhigh : i < 0x10000000000000000) : number? (integerChars i) = some (.integer i) := by
  have hzero : (Nat.toDigits 10 i.natAbs).head? = some '0' →
      (Nat.toDigits 10 i.natAbs).length = 1 := by
    intro h
    by_cases hi : i.natAbs = 0
    · rw [hi]; rfl
    · exact absurd h (head?_toDigits_ne hi)
  rw [integerChars, number?_signed _ Nat.toDigits_ne_nil
    (fun c hc => Nat.isDigit_of_mem_toDigits (by decide) (by decide) hc) hzero, integerLiteral,
    Nat.ofDigitChars_ten_toDigits]
  have hsign : (if (decide (i < 0)) = true then -(i.natAbs : Int) else i.natAbs) = i := by
    simp only [decide_eq_true_eq]
    split <;> omega
  have hminus : ¬ (decide (i < 0) && i.natAbs == 0) = true := by
    rw [Bool.and_eq_true, decide_eq_true_eq, beq_iff_eq]
    omega
  rw [hsign, if_neg hminus, if_pos ⟨hlow, hhigh⟩]

/-! ## Values -/

mutual

/-- The pieces of the compact form of a value. -/
def written : Json → List Lexeme
  | .array items => .openList :: writtenItems items ++ [.closeList]
  | .object members => .openTable :: writtenMembers members ++ [.closeTable]
  | scalar => [.scalar scalar.toDocument]

/-- The pieces of items with commas between them. -/
def writtenItems : List Json → List Lexeme
  | [] => []
  | [item] => item.written
  | item :: rest => item.written ++ .comma :: writtenItems rest

/-- The pieces of members with commas between them. -/
def writtenMembers : List (String × Json) → List Lexeme
  | [] => []
  | [(name, value)] => .scalar (.text name) :: .colon :: value.written
  | (name, value) :: rest =>
      .scalar (.text name) :: .colon :: value.written ++ .comma :: writtenMembers rest

end

/-- The numbers of a value are read as they are written. -/
structure ReadsBack (j : Json) : Prop where
  /-- An integer has 64 bits, with or without a sign. -/
  integer : ∀ i, (Json.integer i).PartOf j → -0x8000000000000000 ≤ i ∧ i < 0x10000000000000000
  float : ∀ x, (Json.float x).PartOf j → number? x.compact = some (.float (.finite x))

theorem ReadsBack.item {items : List Json} {item : Json} (h : (Json.array items).ReadsBack)
    (hmem : item ∈ items) : item.ReadsBack :=
  ⟨fun i hpart => h.integer i (.item hmem hpart), fun x hpart => h.float x (.item hmem hpart)⟩

theorem ReadsBack.member {members : List (String × Json)} {member : String × Json}
    (h : (Json.object members).ReadsBack) (hmem : member ∈ members) : member.2.ReadsBack :=
  ⟨fun i hpart => h.integer i (.member hmem hpart), fun x hpart => h.float x (.member hmem hpart)⟩

theorem cutInto_renderItems {items : List Json}
    (h : ∀ item ∈ items, CutInto item.render item.written) :
    CutInto (renderItems items) (writtenItems items) := by
  induction items with
  | nil => exact .nil
  | cons item items ih =>
    obtain ⟨hitem, hitems⟩ := List.forall_mem_cons.1 h
    cases items with
    | nil => exact hitem
    | cons => exact hitem.append_mark rfl (ih hitems)

theorem cutInto_renderMembers {members : List (String × Json)}
    (h : ∀ member ∈ members, CutInto member.2.render member.2.written) :
    CutInto (renderMembers members) (writtenMembers members) := by
  induction members with
  | nil => exact .nil
  | cons member members ih =>
    obtain ⟨hmember, hmembers⟩ := List.forall_mem_cons.1 h
    obtain ⟨name, value⟩ := member
    have hvalue : CutInto (quote name ++ ':' :: value.render)
        (.scalar (.text name) :: .colon :: value.written) :=
      (cutInto_quote name).append_mark rfl hmember
    cases members with
    | nil => exact hvalue
    | cons => exact hvalue.append_mark rfl (ih hmembers)

/-- **What is written is cut into its pieces again.** -/
theorem cutInto_render {j : Json} (h : j.ReadsBack) : CutInto j.render j.written := by
  induction j using recParts with
  | null => exact cutInto_word rfl
  | boolean b => cases b <;> exact cutInto_word rfl
  | integer i =>
    obtain ⟨hlow, hhigh⟩ := h.integer i .self
    exact cutInto_number (number?_integerChars hlow hhigh)
  | float x => exact cutInto_number (h.float x .self)
  | text s => exact cutInto_quote s
  | array items ih =>
    exact .enclosed rfl (cutInto_renderItems fun item hmem => ih item hmem (h.item hmem)) rfl
  | object members ih =>
    exact .enclosed rfl
      (cutInto_renderMembers fun member hmem => ih member hmem (h.member hmem)) rfl

end Screening.Json
