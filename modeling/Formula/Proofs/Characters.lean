import Formula.Proofs.LiteralLanguage
import Formula.Scan

/-!
# The characters of the three kinds of lexemes

Letters, numerals and symbols have no character in common, and none of them is
blank.  So the first character of a lexeme tells its kind, and a lexeme of one
kind ends where a character of another kind stands.  A literal has no blank in it
either.
-/

namespace Formula

namespace Text

/-- Lists of ranges that lie apart have no code point in common. -/
theorem inRanges_eq_false_of_apart {code : Nat} {first second : List (Nat × Nat)}
    (apart : ∀ left ∈ first, ∀ right ∈ second,
      left.2 < right.1 ∨ right.2 < left.1)
    (inside : inRanges code first = true) : inRanges code second = false := by
  rw [Bool.eq_false_iff]
  intro alsoInside
  obtain ⟨left, leftMember, leftLow, leftHigh⟩ :=
    exists_range_of_inRanges inside
  obtain ⟨right, rightMember, rightLow, rightHigh⟩ :=
    exists_range_of_inRanges alsoInside
  have := apart left leftMember right rightMember
  omega

theorem isBlank_eq_false_of_isLetter {character : Char}
    (letter : isLetter character = true) : isBlank character = false := by
  have apart : ∀ left ∈ letterRanges, ∀ right ∈ blankRanges,
      left.2 < right.1 ∨ right.2 < left.1 := by
    decide +kernel
  exact inRanges_eq_false_of_apart apart letter

theorem le_toNat_of_isLetter {character : Char}
    (letter : isLetter character = true) : 0x41 ≤ character.toNat := by
  obtain ⟨range, member, low, -⟩ := exists_range_of_inRanges letter
  have bound : ∀ range ∈ letterRanges, 0x41 ≤ range.1 := by
    decide +kernel
  exact Nat.le_trans (bound range member) low

end Text

namespace Symbol

theorem char_of_ofChar? {character : Char} {shape : Symbol}
    (found : ofChar? character = some shape) : shape.char = character := by
  unfold ofChar? at found
  split at found
  next isLeft =>
    obtain rfl := Option.some.inj found
    exact isLeft.symm
  next =>
    split at found
    next isRight =>
      obtain rfl := Option.some.inj found
      exact isRight.symm
    next =>
      obtain ⟨operation, spelled, rfl⟩ := Option.map_eq_some_iff.mp found
      have same := List.find?_some spelled
      simpa [char] using same

@[simp]
theorem isLetter_char (shape : Symbol) : Text.isLetter shape.char = false := by
  cases shape with
  | operator operation => cases operation <;> decide
  | leftParen => decide
  | rightParen => decide

@[simp]
theorem isNumeral_char (shape : Symbol) :
    Lexeme.isNumeral shape.char = false := by
  cases shape with
  | operator operation => cases operation <;> decide
  | leftParen => decide
  | rightParen => decide

@[simp]
theorem isBlank_char (shape : Symbol) : Text.isBlank shape.char = false := by
  cases shape with
  | operator operation => cases operation <;> decide
  | leftParen => decide
  | rightParen => decide

theorem ofChar?_eq_none_of_isLetter {character : Char}
    (letter : Text.isLetter character = true) : ofChar? character = none := by
  cases found : ofChar? character with
  | none => rfl
  | some shape =>
      have noLetter := isLetter_char shape
      rw [char_of_ofChar? found, letter] at noLetter
      contradiction

theorem toNat_char_lt (shape : Symbol) : shape.char.toNat < 0x80 := by
  cases shape with
  | operator operation => cases operation <;> decide
  | leftParen => decide
  | rightParen => decide

/-- The minus is the only symbol that begins a literal. -/
theorem char_eq_minus_iff (shape : Symbol) :
    shape.char = '-' ↔ shape = .operator .sub := by
  cases shape with
  | operator operation => cases operation <;> decide
  | leftParen => decide
  | rightParen => decide

end Symbol

namespace Lexeme

theorem toNat_bounds_of_isDigit {character : Char}
    (digit : character.isDigit = true) :
    48 ≤ character.toNat ∧ character.toNat ≤ 57 := by
  simpa [Char.isDigit, UInt32.le_iff_toNat_le] using digit

theorem isNumeral_of_isDigit {character : Char}
    (digit : character.isDigit = true) : isNumeral character = true := by
  simp [isNumeral, digit]

theorem toNat_bounds_of_isNumeral {character : Char}
    (numeral : isNumeral character = true) :
    46 ≤ character.toNat ∧ character.toNat ≤ 57 := by
  simp only [isNumeral, Bool.or_eq_true, beq_iff_eq] at numeral
  rcases numeral with digit | rfl
  · have bounds := toNat_bounds_of_isDigit digit
    omega
  · decide

theorem isNumeral_eq_false_of_isLetter {character : Char}
    (letter : Text.isLetter character = true) :
    isNumeral character = false := by
  rw [Bool.eq_false_iff]
  intro numeral
  have low := Text.le_toNat_of_isLetter letter
  have bounds := toNat_bounds_of_isNumeral numeral
  omega

theorem isBlank_eq_false_of_isNumeral {character : Char}
    (numeral : isNumeral character = true) :
    Text.isBlank character = false := by
  have bounds := toNat_bounds_of_isNumeral numeral
  have apart : ∀ left ∈ [(46, 57)], ∀ right ∈ Text.blankRanges,
      left.2 < right.1 ∨ right.2 < left.1 := by
    decide
  apply Text.inRanges_eq_false_of_apart apart
  simp [Text.inRanges, bounds]

theorem isLetter_of_exponentMark {mark : Char}
    (marks : mark = 'e' ∨ mark = 'E') : Text.isLetter mark = true := by
  rcases marks with rfl | rfl <;> decide

theorem isNumeral_of_exponentMark {mark : Char}
    (marks : mark = 'e' ∨ mark = 'E') : isNumeral mark = false :=
  isNumeral_eq_false_of_isLetter (isLetter_of_exponentMark marks)

end Lexeme

namespace Literal

/-- A character that belongs to a part of a literal is not blank. -/
theorem Belongs.isBlank_eq_false {character : Char} {kind : CharClass}
    (belongs : Belongs character kind) (part : kind ≠ .other) :
    Text.isBlank character = false := by
  cases belongs with
  | digit isDigit =>
      exact Lexeme.isBlank_eq_false_of_isNumeral
        (Lexeme.isNumeral_of_isDigit isDigit)
  | point isPoint =>
      subst isPoint
      decide
  | sign signed => rcases signed with rfl | rfl <;> decide
  | exponentMark marked =>
      exact Text.isBlank_eq_false_of_isLetter
        (Lexeme.isLetter_of_exponentMark marked)
  | other => contradiction

theorem isBlank_eq_false_of_accepting {state : State} {text : List Char}
    (accepted : (state.runFrom text).accepting = true) :
    ∀ character ∈ text, Text.isBlank character = false := by
  induction text generalizing state with
  | nil => simp
  | cons first rest inductionHypothesis =>
      obtain ⟨kind, belongs, accepted⟩ := exists_kind_of_accepting accepted
      have part : kind ≠ .other := by
        rintro rfl
        rw [State.step_other, State.runFrom_rejected] at accepted
        contradiction
      intro character member
      rcases List.mem_cons.mp member with rfl | inRest
      · exact belongs.isBlank_eq_false part
      · exact inductionHypothesis accepted character inRest

end Literal

end Formula
