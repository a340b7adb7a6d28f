import Formula.Proofs.Characters
import Mathlib.Computability.RegularExpressions
import Mathlib.Tactic.IntervalCases

/-!
# The pattern of numeric literals

Literals are described by the pattern

`[+-]?([0-9]+(\.[0-9]*)?|\.[0-9]+)([eE][+-]?[0-9]+)?`

which is written here as a regular expression.  What each part of the pattern
matches is one of the shapes that the automaton is known to read, so that the
automaton accepts the texts of the pattern and no others.

A text that is not rejected is the beginning of a literal: whatever the
automaton still waits for, one more digit is enough.
-/

namespace Formula.Literal

/-! ## Parts of the pattern -/

/-- Any one of some characters. -/
def oneOf (characters : List Char) : RegularExpression Char :=
  (characters.map RegularExpression.char).foldr (· + ·) 0

/-- What a pattern matches, or nothing. -/
def optional (pattern : RegularExpression Char) : RegularExpression Char :=
  1 + pattern

/-- What a pattern matches, once or several times in a row. -/
def oneOrMore (pattern : RegularExpression Char) : RegularExpression Char :=
  pattern * pattern.star

/-- `[0-9]` -/
def digitPattern : RegularExpression Char :=
  oneOf ['0', '1', '2', '3', '4', '5', '6', '7', '8', '9']

/-- `[+-]?` -/
def signPattern : RegularExpression Char :=
  optional (oneOf ['+', '-'])

/-- `[0-9]+(\.[0-9]*)?|\.[0-9]+` -/
def mantissaPattern : RegularExpression Char :=
  oneOrMore digitPattern *
      optional (RegularExpression.char '.' * digitPattern.star) +
    RegularExpression.char '.' * oneOrMore digitPattern

/-- `[eE][+-]?[0-9]+` -/
def exponentPattern : RegularExpression Char :=
  oneOf ['e', 'E'] * (signPattern * oneOrMore digitPattern)

/-- `[+-]?([0-9]+(\.[0-9]*)?|\.[0-9]+)([eE][+-]?[0-9]+)?` -/
def pattern : RegularExpression Char :=
  signPattern * (mantissaPattern * optional exponentPattern)

/-! ## What the parts match -/

theorem mem_oneOf {characters text : List Char} :
    text ∈ (oneOf characters).matches' ↔
      ∃ character ∈ characters, text = [character] := by
  induction characters with
  | nil =>
      have nothing : text ∉ (oneOf []).matches' := Language.notMem_zero text
      simp [nothing]
  | cons first others inductionHypothesis =>
      have split :
          text ∈ (oneOf (first :: others)).matches' ↔
            text = [first] ∨ text ∈ (oneOf others).matches' :=
        Iff.rfl
      rw [split, inductionHypothesis]
      simp

theorem mem_optional {part : RegularExpression Char} {text : List Char} :
    text ∈ (optional part).matches' ↔ text = [] ∨ text ∈ part.matches' :=
  Iff.rfl

theorem mem_char_mul {character : Char} {part : RegularExpression Char}
    {text : List Char} :
    text ∈ (RegularExpression.char character * part).matches' ↔
      ∃ rest ∈ part.matches', text = character :: rest := by
  rw [RegularExpression.matches'_mul, Language.mem_mul]
  constructor
  · intro matched
    obtain ⟨_, rfl, rest, restMatched, rfl⟩ := matched
    exact ⟨rest, restMatched, rfl⟩
  · intro matched
    obtain ⟨rest, restMatched, rfl⟩ := matched
    exact ⟨[character], rfl, rest, restMatched, rfl⟩

theorem mem_digitPattern {text : List Char} :
    text ∈ digitPattern.matches' ↔
      ∃ character, character.isDigit = true ∧ text = [character] := by
  rw [digitPattern, mem_oneOf]
  constructor
  · intro matched
    obtain ⟨character, member, rfl⟩ := matched
    have allDigits :
        ∀ digit ∈ ['0', '1', '2', '3', '4', '5', '6', '7', '8', '9'],
          digit.isDigit = true := by
      simp
    exact ⟨character, allDigits character member, rfl⟩
  · intro matched
    obtain ⟨character, isDigit, rfl⟩ := matched
    obtain ⟨low, high⟩ := Lexeme.toNat_bounds_of_isDigit isDigit
    refine ⟨character, ?_, rfl⟩
    rw [← Char.ofNat_toNat character]
    generalize character.toNat = code at low high ⊢
    interval_cases code <;> decide

/-- A digit pattern that is repeated matches the runs of digits. -/
theorem mem_star_digitPattern {text : List Char} :
    text ∈ digitPattern.star.matches' ↔ IsDigits text := by
  rw [RegularExpression.matches'_star, Language.mem_kstar]
  constructor
  · intro matched
    obtain ⟨pieces, rfl, each⟩ := matched
    intro character member
    obtain ⟨piece, inPieces, inPiece⟩ := List.mem_flatten.mp member
    obtain ⟨digit, isDigit, rfl⟩ := mem_digitPattern.mp (each piece inPieces)
    rwa [List.mem_singleton.mp inPiece]
  · intro allDigits
    have pieces : (text.map ([·])).flatten = text := by
      rw [← List.flatMap_def, List.flatMap_singleton']
    refine ⟨text.map ([·]), pieces.symm, ?_⟩
    intro piece member
    obtain ⟨digit, inText, rfl⟩ := List.mem_map.mp member
    exact mem_digitPattern.mpr ⟨digit, allDigits digit inText, rfl⟩

theorem mem_oneOrMore_digitPattern {text : List Char} :
    text ∈ (oneOrMore digitPattern).matches' ↔
      IsDigits text ∧ text ≠ [] := by
  rw [oneOrMore, RegularExpression.matches'_mul, Language.mem_mul]
  constructor
  · intro matched
    obtain ⟨_, first, rest, others, rfl⟩ := matched
    obtain ⟨digit, isDigit, rfl⟩ := mem_digitPattern.mp first
    have restDigits := mem_star_digitPattern.mp others
    exact ⟨isDigits_cons.mpr ⟨isDigit, restDigits⟩, by simp⟩
  · intro shape
    obtain ⟨allDigits, nonempty⟩ := shape
    obtain ⟨digit, rest, rfl⟩ := List.exists_cons_of_ne_nil nonempty
    obtain ⟨isDigit, restDigits⟩ := isDigits_cons.mp allDigits
    exact ⟨[digit], mem_digitPattern.mpr ⟨digit, isDigit, rfl⟩,
      rest, mem_star_digitPattern.mpr restDigits, rfl⟩

theorem mem_signPattern {text : List Char} :
    text ∈ signPattern.matches' ↔ IsSign text := by
  rw [signPattern, mem_optional, mem_oneOf]
  simp [IsSign]

theorem mem_mantissaPattern {text : List Char} :
    text ∈ mantissaPattern.matches' ↔ IsMantissa text := by
  rw [mantissaPattern, RegularExpression.matches'_add,
    RegularExpression.matches'_mul, Language.mem_add, Language.mem_mul,
    mem_char_mul]
  simp only [mem_oneOrMore_digitPattern, mem_optional, mem_char_mul,
    mem_star_digitPattern]
  constructor
  · intro matched
    rcases matched with ⟨whole, ⟨wholeDigits, nonempty⟩, _,
      rfl | ⟨fraction, fractionDigits, rfl⟩, rfl⟩ |
      ⟨fraction, ⟨fractionDigits, nonempty⟩, rfl⟩
    · rw [List.append_nil]
      exact .inl ⟨wholeDigits, nonempty⟩
    · exact .inr ⟨whole, fraction, rfl, wholeDigits, fractionDigits,
        .inl nonempty⟩
    · exact .inr ⟨[], fraction, rfl, isDigits_nil, fractionDigits,
        .inr nonempty⟩
  · intro shape
    rcases shape with ⟨wholeDigits, nonempty⟩ |
      ⟨whole, fraction, rfl, wholeDigits, fractionDigits, nonempty⟩
    · exact .inl ⟨text, ⟨wholeDigits, nonempty⟩, [], .inl rfl,
        List.append_nil text⟩
    · by_cases noWhole : whole = []
      · subst noWhole
        have someFraction : fraction ≠ [] := by simpa using nonempty
        exact .inr ⟨fraction, ⟨fractionDigits, someFraction⟩, rfl⟩
      · exact .inl ⟨whole, ⟨wholeDigits, noWhole⟩, '.' :: fraction,
          .inr ⟨fraction, fractionDigits, rfl⟩, rfl⟩

theorem mem_exponentPattern {text : List Char} :
    text ∈ exponentPattern.matches' ↔ IsExponent text := by
  rw [exponentPattern, RegularExpression.matches'_mul,
    RegularExpression.matches'_mul, Language.mem_mul]
  simp only [mem_oneOf, Language.mem_mul, mem_signPattern,
    mem_oneOrMore_digitPattern]
  constructor
  · intro matched
    obtain ⟨_, ⟨mark, marked, rfl⟩, _,
      ⟨sign, signed, digits, ⟨allDigits, nonempty⟩, rfl⟩, rfl⟩ := matched
    have isMark : IsMark mark := by simpa [IsMark] using marked
    exact ⟨mark, sign, digits, rfl, isMark, signed, allDigits, nonempty⟩
  · intro shape
    obtain ⟨mark, sign, digits, rfl, isMark, signed, allDigits, nonempty⟩ :=
      shape
    have marked : mark ∈ ['e', 'E'] := by simpa [IsMark] using isMark
    exact ⟨[mark], ⟨mark, marked, rfl⟩, sign ++ digits,
      ⟨sign, signed, digits, ⟨allDigits, nonempty⟩, rfl⟩, rfl⟩

theorem mem_pattern {text : List Char} :
    text ∈ pattern.matches' ↔ IsLiteral text := by
  rw [pattern, RegularExpression.matches'_mul,
    RegularExpression.matches'_mul, Language.mem_mul]
  simp only [Language.mem_mul, mem_signPattern, mem_mantissaPattern,
    mem_optional, mem_exponentPattern]
  constructor
  · intro matched
    obtain ⟨sign, signed, _,
      ⟨mantissa, mantissaShape, exponent, exponentShape, rfl⟩, rfl⟩ := matched
    exact ⟨sign, mantissa, exponent, rfl, signed, mantissaShape,
      exponentShape⟩
  · intro shape
    obtain ⟨sign, mantissa, exponent, rfl, signed, mantissaShape,
      exponentShape⟩ := shape
    exact ⟨sign, signed, mantissa ++ exponent,
      ⟨mantissa, mantissaShape, exponent, exponentShape, rfl⟩, rfl⟩

/-! ## Beginnings of literals -/

/-- Whatever has been read of a literal, a digit makes it a whole one. -/
theorem accepting_step_digit {state : State} (alive : state ≠ .rejected) :
    (state.step .digit).accepting = true := by
  cases state with
  | rejected => contradiction
  | _ => rfl

theorem run_append_digit (text : List Char) :
    run (text ++ ['0']) = (run text).step .digit :=
  State.runFrom_append .start text ['0']

/-- A text is rejected as soon as no literal begins with it. -/
theorem run_eq_rejected_iff {text : List Char} :
    run text = .rejected ↔ ∀ rest, ¬ IsLiteral (text ++ rest) := by
  constructor
  · intro rejected rest shape
    have accepted := accepting_of_isLiteral shape
    have stays : run (text ++ rest) = .rejected := by
      rw [run, State.runFrom_append]
      change (run text).runFrom rest = .rejected
      rw [rejected, State.runFrom_rejected]
    rw [stays] at accepted
    contradiction
  · intro beginsNone
    by_contra alive
    apply beginsNone ['0']
    apply isLiteral_of_accepting
    rw [run_append_digit]
    exact accepting_step_digit alive

/-- The automaton accepts the texts that match the pattern, and it rejects a
text exactly if no text that matches the pattern begins with it. -/
theorem automaton_decides_pattern (text : List Char) :
    ((run text).accepting = true ↔ text ∈ pattern.matches') ∧
    (run text = .rejected ↔
      ∀ literal ∈ pattern.matches', ¬ text <+: literal) := by
  constructor
  · rw [accepting_run_iff, mem_pattern]
  · rw [run_eq_rejected_iff]
    constructor
    · intro beginsNone literal matched begins
      obtain ⟨rest, rfl⟩ := begins
      exact beginsNone rest (mem_pattern.mp matched)
    · intro beginsNone rest shape
      exact beginsNone (text ++ rest) (mem_pattern.mpr shape)
        (List.prefix_append text rest)

end Formula.Literal
