import Screening.Token.Scanner

/-!
# The normal spelling of a condition

`normalize` respells the text of a condition without reading it: blanks become single spaces and
disappear at both ends, and keywords are written in upper case. What stands between quotes is left
as it is, also behind a quote that is never closed.

The text is not cut into tokens for this. It is searched from the left for quoted texts, words and
runs of blanks (`splitLiteral`, `spellWord`), and everything between them is left as it is.
-/

namespace Screening

open Text

/-- Splits off what belongs to a quoted text behind its opening quote, the closing quote included if
there is one. A backslash takes the character behind it along, whatever it is; a backslash with
nothing behind it does not belong to the quoted text. -/
def splitLiteral : List Char → List Char × List Char
  | [] => ([], [])
  | '\'' :: cs => (['\''], cs)
  | ['\\'] => ([], ['\\'])
  | '\\' :: c :: cs => (splitLiteral cs).map (fun inside => '\\' :: c :: inside) id
  | c :: cs => (splitLiteral cs).map (fun inside => c :: inside) id

theorem splitLiteral_append (cs : List Char) : (splitLiteral cs).1 ++ (splitLiteral cs).2 = cs := by
  fun_induction splitLiteral cs with
  | case1 | case2 | case3 => rfl
  | case4 c cs ih | case5 c cs _ _ _ ih =>
    simp only [Prod.map_fst, Prod.map_snd, id_eq, List.cons_append, ih]

/-- A word in its normal spelling: keywords in upper case, names as they are. -/
def spellWord (word : List Char) : List Char :=
  let upper := word.map Char.toUpper
  if upper = "AND".toList ∨ upper = "OR".toList ∨ upper = "NOT".toList then upper else word

/-- The normal spelling of a text, up to blanks at its ends. -/
def respell (cs : List Char) : List Char :=
  match cs with
  | [] => []
  | c :: cs =>
      if isBlank c then ' ' :: respell (cs.dropWhile isBlank)
      else if c = '\'' then '\'' :: (splitLiteral cs).1 ++ respell (splitLiteral cs).2
      else if isWordStart c then
        spellWord (c :: cs.takeWhile isWordPart) ++ respell (cs.dropWhile isWordPart)
      else c :: respell cs
termination_by cs.length
decreasing_by
  all_goals simp only [List.length_cons]
  · have := (List.dropWhile_sublist isBlank (l := cs)).length_le
    omega
  · have := congrArg List.length (splitLiteral_append cs)
    simp only [List.length_append] at this
    omega
  · have := (List.dropWhile_sublist isWordPart (l := cs)).length_le
    omega
  · omega

/-- The normal spelling of a text. -/
def normalize (source : String) : String := String.ofList (trim (respell source.toList))

end Screening
