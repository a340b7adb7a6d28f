import Formula.Proofs.Characters
import Mathlib.Data.List.TakeWhile

/-!
# Which lexeme the scanner chooses

The scanner chooses the lexeme at the beginning of a text by a few tests on its
first characters.  Here the choice is described by what the chosen lexeme and
the text behind it look like: a literal is longest among the texts of its look, a
word is not followed by a letter, and a minus is a sign of its own unless a
literal follows where an operand may begin.
-/

namespace Formula.Lexeme

open Literal (IsDigits IsSign IsMark)

/-! ## The look of a literal -/

/-- What may stand behind the digits and points of a literal, by its look: a
mark, an optional sign and digits, of which there may be none. -/
def IsExponentOutline (text : List Char) : Prop :=
  ∃ mark sign digits,
    text = mark :: (sign ++ digits) ∧
    IsMark mark ∧ IsSign sign ∧ IsDigits digits

/-- The look of a literal without its sign: digits and points, and then perhaps
the look of an exponent. -/
def IsOutline (text : List Char) : Prop :=
  ∃ mantissa exponent,
    text = mantissa ++ exponent ∧
    mantissa ≠ [] ∧
    (∀ character ∈ mantissa, isNumeral character = true) ∧
    (exponent = [] ∨ IsExponentOutline exponent)

/-- A longest one among the beginnings of a text that have a property. -/
def IsLongestPrefix (property : List Char → Prop)
    (found text : List Char) : Prop :=
  found <+: text ∧ property found ∧
    ∀ other, other <+: text → property other → other.length ≤ found.length

theorem IsLongestPrefix.unique {property : List Char → Prop}
    {first second text : List Char}
    (firstLongest : IsLongestPrefix property first text)
    (secondLongest : IsLongestPrefix property second text) :
    first = second := by
  obtain ⟨firstPrefix, firstHolds, firstMaximal⟩ := firstLongest
  obtain ⟨secondPrefix, secondHolds, secondMaximal⟩ := secondLongest
  have shorter := secondMaximal first firstPrefix firstHolds
  have longer := firstMaximal second secondPrefix secondHolds
  exact (List.prefix_of_prefix_length_le firstPrefix secondPrefix
    shorter).eq_of_length (Nat.le_antisymm shorter longer)

theorem startsLiteral_of_isOutline {text following : List Char}
    (outline : IsOutline text) : startsLiteral (text ++ following) = true := by
  obtain ⟨mantissa, exponent, rfl, nonempty, numerals, -⟩ := outline
  cases mantissa with
  | nil => contradiction
  | cons first mantissa => simpa [startsLiteral] using numerals first (by simp)

theorem takeWhile_isDigit_append {digits : List Char}
    (allDigits : IsDigits digits) (rest : List Char) :
    (digits ++ rest).takeWhile Char.isDigit =
      digits ++ rest.takeWhile Char.isDigit :=
  List.takeWhile_append_of_pos allDigits

/-- The run of an exponent goes on as long as digits follow, unless there is
nothing between its mark and the text that follows. -/
theorem exponentRun_append {mark : Char} {sign digits rest : List Char}
    (marked : IsMark mark) (signed : IsSign sign) (allDigits : IsDigits digits)
    (nonempty : sign ≠ [] ∨ digits ≠ []) :
    exponentRun (mark :: (sign ++ (digits ++ rest))) =
      mark :: (sign ++ (digits ++ rest.takeWhile Char.isDigit)) := by
  have marks : mark = 'e' ∨ mark = 'E' := marked
  rcases signed with rfl | rfl | rfl
  · cases digits with
    | nil => simp at nonempty
    | cons digit digits =>
        have isDigit := (Literal.isDigits_cons.mp allDigits).1
        have noSign : ¬ (digit = '+' ∨ digit = '-') := by
          rintro (rfl | rfl) <;> contradiction
        have taken := takeWhile_isDigit_append allDigits rest
        simp only [List.cons_append] at taken
        simp [exponentRun, marks, noSign, taken]
  · simp [exponentRun, marks, takeWhile_isDigit_append allDigits]
  · simp [exponentRun, marks, takeWhile_isDigit_append allDigits]

theorem exponentRun_isPrefix (text : List Char) : exponentRun text <+: text := by
  cases text with
  | nil => exact List.prefix_refl []
  | cons mark rest =>
      simp only [exponentRun]
      split
      next =>
        apply (List.prefix_cons_inj mark).mpr
        cases rest with
        | nil => exact List.prefix_refl []
        | cons sign digits =>
            dsimp only
            split
            next =>
              exact (List.prefix_cons_inj sign).mpr <|
                List.takeWhile_prefix _
            next => exact List.takeWhile_prefix _
      next => exact List.nil_prefix

theorem exponentRun_shape (text : List Char) :
    exponentRun text = [] ∨ IsExponentOutline (exponentRun text) := by
  cases text with
  | nil => exact .inl rfl
  | cons mark rest =>
      have digitsOf : ∀ digits : List Char,
          IsDigits (digits.takeWhile Char.isDigit) := by
        intro digits character member
        exact List.mem_takeWhile_imp member
      simp only [exponentRun]
      split
      next marked =>
        right
        cases rest with
        | nil =>
            exact ⟨mark, [], [], rfl, marked, .inl rfl, Literal.isDigits_nil⟩
        | cons sign digits =>
            dsimp only
            split
            next signed =>
              refine ⟨mark, [sign], _, rfl, marked, .inr ?_, digitsOf digits⟩
              simpa using signed
            next =>
              exact ⟨mark, [], _, rfl, marked, .inl rfl,
                digitsOf (sign :: digits)⟩
      next => exact .inl rfl

theorem literalRun_append {mantissa rest : List Char}
    (numerals : ∀ character ∈ mantissa, isNumeral character = true) :
    literalRun (mantissa ++ rest) = mantissa ++ literalRun rest := by
  rw [literalRun, literalRun, List.takeWhile_append_of_pos numerals,
    List.dropWhile_append_of_pos numerals, List.append_assoc]

/-- Behind the numerals the run of a literal is that of an exponent. -/
theorem literalRun_of_head {rest : List Char}
    (noNumeral : ∀ character ∈ rest.head?, isNumeral character = false) :
    literalRun rest = exponentRun rest := by
  cases rest with
  | nil => rfl
  | cons character rest =>
      have first : isNumeral character = false := noNumeral character (by simp)
      simp [literalRun, first]

theorem literalRun_isPrefix (text : List Char) : literalRun text <+: text := by
  have front := exponentRun_isPrefix (text.dropWhile isNumeral)
  have whole := (List.prefix_append_right_inj (text.takeWhile isNumeral)).mpr front
  rw [List.takeWhile_append_dropWhile] at whole
  exact whole

theorem isOutline_literalRun {text : List Char}
    (starts : startsLiteral text = true) : IsOutline (literalRun text) := by
  refine ⟨text.takeWhile isNumeral, exponentRun (text.dropWhile isNumeral), rfl,
    ?_, fun character member => List.mem_takeWhile_imp member,
    exponentRun_shape _⟩
  cases text with
  | nil => contradiction
  | cons character text =>
      have numeral : isNumeral character = true := by
        simpa [startsLiteral] using starts
      simp [numeral]

/-- The run of a literal is the longest beginning that looks like one. -/
theorem isLongestPrefix_literalRun {text : List Char}
    (starts : startsLiteral text = true) :
    IsLongestPrefix IsOutline (literalRun text) text := by
  refine ⟨literalRun_isPrefix text, isOutline_literalRun starts, ?_⟩
  rintro other ⟨rest, rfl⟩ ⟨mantissa, exponent, rfl, nonempty, numerals, shape⟩
  rw [List.append_assoc, literalRun_append numerals]
  rcases shape with rfl | ⟨mark, sign, digits, rfl, marked, signed, allDigits⟩
  · simp
  · have behind : literalRun ((mark :: (sign ++ digits)) ++ rest) =
        exponentRun (mark :: (sign ++ (digits ++ rest))) := by
      have noNumeral := isNumeral_of_exponentMark marked
      rw [literalRun_of_head (by simpa using noNumeral)]
      simp
    rw [behind]
    by_cases bare : sign ≠ [] ∨ digits ≠ []
    · rw [exponentRun_append marked signed allDigits bare]
      simp
    · -- Nothing is compared but the mark itself.
      have marks : mark = 'e' ∨ mark = 'E' := marked
      have noSign : sign = [] := by
        by_contra present
        exact bare (.inl present)
      have noDigits : digits = [] := by
        by_contra present
        exact bare (.inr present)
      simp [noSign, noDigits, exponentRun, marks]

/-! ## The chosen lexeme -/

/-- `Fits afterOperand following lexeme` means that the lexeme may be cut off in
front of the text that follows, given whether an operand ends before it. -/
def Fits (afterOperand : Bool) (following : List Char) : Lexeme → Prop
  | .literal text =>
      ∃ sign run,
        text = sign ++ run ∧
        (sign = [] ∨ sign = ['-'] ∧ afterOperand = false) ∧
        IsLongestPrefix IsOutline run (run ++ following)
  | .word text =>
      text ≠ [] ∧
      (∀ character ∈ text, Text.isLetter character = true) ∧
      ∀ character ∈ following.head?, Text.isLetter character = false
  | .symbol shape =>
      shape = .operator .sub →
        startsLiteral following = true → afterOperand = true

/-- A lexeme that fits before a text fits before any beginning of it. -/
theorem Fits.of_append {afterOperand : Bool} {front rest : List Char}
    {lexeme : Lexeme} (fits : lexeme.Fits afterOperand (front ++ rest)) :
    lexeme.Fits afterOperand front := by
  cases lexeme with
  | literal text =>
      obtain ⟨sign, run, split, signed, -, outline, longest⟩ := fits
      refine ⟨sign, run, split, signed, List.prefix_append run front, outline,
        ?_⟩
      intro other begins otherOutline
      apply longest other _ otherOutline
      rw [← List.append_assoc]
      exact begins.trans (List.prefix_append _ rest)
  | word text =>
      obtain ⟨nonempty, letters, noLetter⟩ := fits
      refine ⟨nonempty, letters, ?_⟩
      intro character first
      apply noLetter character
      rw [List.head?_append, Option.mem_def.mp first]
      rfl
  | symbol shape =>
      intro minus starts
      apply fits minus
      rw [startsLiteral] at starts ⊢
      cases front with
      | nil => contradiction
      | cons character front => simpa using starts

theorem takeWhile_isLetter_append {word following : List Char}
    (letters : ∀ character ∈ word, Text.isLetter character = true)
    (noLetter : ∀ character ∈ following.head?,
      Text.isLetter character = false) :
    (word ++ following).takeWhile Text.isLetter = word := by
  rw [List.takeWhile_append_of_pos letters]
  cases following with
  | nil => simp
  | cons character following => simp [noLetter character (by simp)]

theorem exists_fits_of_first? {afterOperand : Bool} {text : List Char}
    {lexeme : Lexeme} (found : first? afterOperand text = some lexeme) :
    ∃ following, text = lexeme.text ++ following ∧
      lexeme.Fits afterOperand following := by
  cases text with
  | nil => simp [first?] at found
  | cons character rest =>
      simp only [first?] at found
      split at found
      next numeral =>
        obtain rfl := Option.some.inj found
        have longest := @isLongestPrefix_literalRun (character :: rest)
          (by simpa [startsLiteral] using numeral)
        obtain ⟨following, whole⟩ := longest.1
        refine ⟨following, whole.symm, [], literalRun (character :: rest), rfl,
          .inl rfl, ?_⟩
        rw [whole]
        exact longest
      next =>
        split at found
        next fused =>
          obtain rfl := Option.some.inj found
          simp only [Bool.and_eq_true, decide_eq_true_eq,
            Bool.not_eq_true'] at fused
          obtain ⟨⟨rfl, outside⟩, starts⟩ := fused
          have longest := isLongestPrefix_literalRun starts
          obtain ⟨following, whole⟩ := longest.1
          refine ⟨following, ?_, ['-'], literalRun rest, rfl,
            .inr ⟨rfl, outside⟩, ?_⟩
          · simpa [Lexeme.text] using whole.symm
          · rw [whole]
            exact longest
        next single =>
          split at found
          next shape spelled =>
            obtain rfl := Option.some.inj found
            have same := Symbol.char_of_ofChar? spelled
            refine ⟨rest, by simp [Lexeme.text, same], ?_⟩
            rintro rfl starts
            have minus : character = '-' := same.symm
            simpa [minus, starts] using single
          next =>
            split at found
            next letter =>
              obtain rfl := Option.some.inj found
              refine ⟨(character :: rest).dropWhile Text.isLetter, ?_, ?_, ?_, ?_⟩
              · exact List.takeWhile_append_dropWhile.symm
              · simp [letter]
              · exact fun other member => List.mem_takeWhile_imp member
              · intro other member
                have stopped := List.head?_dropWhile_not Text.isLetter
                  (character :: rest)
                rw [Option.mem_def.mp member] at stopped
                simpa using stopped
            next => contradiction

theorem first?_literal {afterOperand : Bool} {text following : List Char}
    (fits : (Lexeme.literal text).Fits afterOperand following) :
    first? afterOperand (text ++ following) = some (.literal text) := by
  obtain ⟨sign, run, rfl, signed, longest⟩ := fits
  have starts := @startsLiteral_of_isOutline run following longest.2.1
  have same : literalRun (run ++ following) = run :=
    (isLongestPrefix_literalRun starts).unique longest
  rcases signed with rfl | ⟨rfl, outside⟩
  · cases whole : run ++ following with
    | nil => simp [whole, startsLiteral] at starts
    | cons character rest =>
        rw [whole] at starts same
        have numeral : isNumeral character = true := by
          simpa [startsLiteral] using starts
        simp [first?, whole, numeral, same]
  · have noNumeral : isNumeral '-' = false := by decide
    simp [first?, noNumeral, outside, starts, same]

theorem first?_word {afterOperand : Bool} {text following : List Char}
    (fits : (Lexeme.word text).Fits afterOperand following) :
    first? afterOperand (text ++ following) = some (.word text) := by
  obtain ⟨nonempty, letters, noLetter⟩ := fits
  have taken := takeWhile_isLetter_append letters noLetter
  cases text with
  | nil => contradiction
  | cons character text =>
      have letter : Text.isLetter character = true := letters character (by simp)
      have noNumeral := isNumeral_eq_false_of_isLetter letter
      have noMinus : character ≠ '-' := by
        rintro rfl
        contradiction
      have noSymbol := Symbol.ofChar?_eq_none_of_isLetter letter
      rw [List.cons_append] at taken ⊢
      simp only [first?, noNumeral, noSymbol, letter, taken]
      simp [noMinus]

theorem first?_symbol {afterOperand : Bool} {shape : Symbol}
    {following : List Char}
    (fits : (Lexeme.symbol shape).Fits afterOperand following) :
    first? afterOperand (shape.char :: following) = some (.symbol shape) := by
  by_cases minus : shape = .operator .sub
  · have notFused : startsLiteral following = true → afterOperand = true :=
      fits minus
    cases starts : startsLiteral following with
    | true => simp [first?, notFused starts]
    | false => simp [first?, starts]
  · have noMinus : shape.char ≠ '-' := fun same =>
      minus ((Symbol.char_eq_minus_iff shape).mp same)
    simp [first?, noMinus]

/-- The scanner chooses a lexeme exactly if it stands at the beginning of the
text and fits there. -/
theorem first?_eq_some_iff {afterOperand : Bool} {text : List Char}
    {lexeme : Lexeme} :
    first? afterOperand text = some lexeme ↔
      ∃ following, text = lexeme.text ++ following ∧
        lexeme.Fits afterOperand following := by
  constructor
  · exact exists_fits_of_first?
  · rintro ⟨following, rfl, fits⟩
    cases lexeme with
    | literal text => exact first?_literal fits
    | word text => exact first?_word fits
    | symbol shape => exact first?_symbol fits

end Formula.Lexeme
