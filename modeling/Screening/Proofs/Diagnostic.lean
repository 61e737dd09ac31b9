import Screening.Diagnostic

/-!
# What is said about a length

A report does not say which finding it is about, but its message does as far as lengths go: the two
findings about a length begin with the same words, and no other finding begins with them
(`Finding.begins_iff`). So a report that is said to be about the length of a text is about it.
-/

namespace Screening

/-- Whether a finding is about the length of a text. -/
def Finding.isLength : Finding → Bool
  | .tooShort | .tooLong _ => true
  | _ => false

/-- The words with which a message about a length begins. -/
def lengthWords : List Char := "Expression too ".toList

/-- A message that begins in another way does not begin with these words. -/
theorem not_begins_append {start : String} (s : String)
    (h : ¬ lengthWords <+: start.toList ∧ ¬ start.toList <+: lengthWords) :
    ¬ lengthWords <+: (start ++ s).toList := by
  intro hwords
  rw [String.toList_append] at hwords
  rcases List.prefix_or_prefix_of_prefix hwords (List.prefix_append _ _) with hle | hle
  · exact h.1 hle
  · exact h.2 hle

/-- The same of a message in three parts. -/
theorem not_begins_append_append {start : String} (s t : String)
    (h : ¬ lengthWords <+: start.toList ∧ ¬ start.toList <+: lengthWords) :
    ¬ lengthWords <+: (start ++ s ++ t).toList := by
  rw [String.append_assoc]
  exact not_begins_append (s ++ t) h

theorem Fault.not_begins (f : Fault) : ¬ lengthWords <+: f.message.toList := by
  cases f with
  | tooDeep | missingParen | expectedRelation | unterminatedText | endOfInput => decide +kernel
  | unexpectedToken | invalidNumber | unexpectedCharacter =>
    exact not_begins_append_append _ _ (by decide +kernel)
  | expectedOperand => exact not_begins_append _ (by decide +kernel)

/-- What is said about a length is said about nothing else. -/
theorem Finding.begins_iff (f : Finding) :
    lengthWords <+: f.message.toList ↔ f.isLength = true := by
  cases f with
  | tooShort => decide +kernel
  | tooLong limit =>
    have hwords : lengthWords <+: "Expression too long (at most ".toList := by decide +kernel
    refine ⟨fun _ => rfl, fun _ => hwords.trans ?_⟩
    show _ <+: ("Expression too long (at most " ++ toString limit ++ " characters)").toList
    rw [String.append_assoc, String.toList_append]
    exact List.prefix_append _ _
  | unreadable fault => exact iff_of_false fault.not_begins nofun
  | leftNotField => decide +kernel
  | unknownField => exact iff_of_false (not_begins_append _ (by decide +kernel)) nofun
  | arithmetic | call | rightIsField =>
    exact iff_of_false (not_begins_append_append _ _ (by decide +kernel)) nofun
  | orderedText relation name =>
    refine iff_of_false ?_ nofun
    show ¬ lengthWords <+: ("Operator '" ++ relation.symbol ++
      "' is not allowed for text field '" ++ name ++ "'").toList
    simp only [String.append_assoc]
    exact not_begins_append _ (by decide +kernel)

/-- No other finding says what one about a length says. -/
theorem Finding.message_ne {f g : Finding} (hf : f.isLength = false) (hg : g.isLength = true) :
    f.message ≠ g.message := by
  intro h
  have hwords := g.begins_iff.2 hg
  rw [← h, f.begins_iff, hf] at hwords
  cases hwords

/-- What is said about a text that is too short is said about no text that is too long. -/
theorem Finding.message_tooShort_ne (limit : Nat) :
    Finding.tooShort.message ≠ (Finding.tooLong limit).message := by
  intro h
  have hlength : "Expression too long (at most ".length ≤
      (Finding.tooLong limit).message.length := by
    -- the literals are kept from being compared character by character
    generalize hstart : "Expression too long (at most " = start
    have heq : (Finding.tooLong limit).message = start ++ (toString limit ++ " characters)") := by
      rw [← hstart, ← String.append_assoc]
      rfl
    rw [heq, String.length_append]
    exact Nat.le_add_right _ _
  rw [← h] at hlength
  exact absurd hlength (by decide +kernel)

end Screening
