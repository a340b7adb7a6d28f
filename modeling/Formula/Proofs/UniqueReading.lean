import Formula.Evaluation
import Formula.Proofs.ReaderSteps
import Formula.Proofs.ScanSteps
import Mathlib.Data.List.Forall2

/-!
# The reading of a source is unique

The scanner takes the longest lexeme and decides by the token before whether a
minus is a sign.  In principle that could lose a reading: another cut of the
same text might be a formula where the scanner's is none.  It cannot, because
the reader takes no operand directly behind another.  So in a cut that it reads,

* a literal or a word has a symbol or the end behind it, which neither can
  contain, and is therefore the longest one at its place;
* a minus that is an operator stands behind an operand, and a minus that is the
  sign of a literal does not.

The argument goes along the steps of the reader, with the lexemes that the
tokens were made of beside them.
-/

namespace Formula

open Reader

/-! ## Tokens at other positions -/

namespace Reader

theorem Takes.relocate {level : Level} {reader next : Reader} {token : Token}
    (takes : Takes level reader token next) (place : Nat → Nat) :
    Takes level reader (token.relocate place) next := by
  cases takes with
  | number groups pending text value position =>
      exact .number groups pending text value (place position)
  | name groups pending named =>
      have moved := @Takes.name level groups pending (token.relocate place)
        (by simpa using named)
      rwa [Token.lexeme_relocate] at moved
  | function groups pending named =>
      exact .function groups pending (by simpa using named)
  | group groups pending opened =>
      exact .group groups pending (by simpa using opened)
  | call groups pending function opened =>
      exact .call groups pending function (by simpa using opened)
  | operator groups pending left signed admitted =>
      exact .operator groups pending left (by simpa using signed) admitted
  | close group groups pending left closed =>
      exact .close group groups pending left (by simpa using closed)

theorem Passes.relocate {level : Level} {reader last : Reader}
    {tokens : List Token} (passes : Passes level reader tokens last)
    (place : Nat → Nat) :
    Passes level reader (tokens.map (Token.relocate place)) last := by
  induction passes with
  | refl reader => exact .refl reader
  | step takes passes inductionHypothesis =>
      exact .step (takes.relocate place) inductionHypothesis

end Reader

namespace Lexeme

/-- A lexeme that is valid by itself, wherever it stands. -/
def Valid : Lexeme → Prop
  | .literal text =>
      text.head? ≠ some '+' ∧ (Literal.value? text).isSome = true
  | .word text =>
      text ≠ [] ∧ ∀ character ∈ text, Text.isLetter character = true
  | .symbol _ => True

instance : (lexeme : Lexeme) → Decidable lexeme.Valid
  | .literal text =>
      inferInstanceAs (Decidable
        (text.head? ≠ some '+' ∧ (Literal.value? text).isSome = true))
  | .word text =>
      -- The characters of the text are tried, not all characters.
      have := text.decidableBAll fun character =>
        Text.isLetter character = true
      inferInstanceAs (Decidable
        (text ≠ [] ∧ ∀ character ∈ text, Text.isLetter character = true))
  | .symbol _ => inferInstanceAs (Decidable True)

/-- `Makes lexeme token` means that the token is the one that the lexeme makes,
at any position. -/
inductive Makes : Lexeme → Token → Prop
  | literal {text : List Char} {value : Float} (position : Nat) :
      Literal.value? text = some value →
      Makes (.literal text) (.number (String.ofList text) value position)
  | word (text : List Char) (position : Nat) :
      Makes (.word text) (.word (String.ofList text) position)
  | symbol (shape : Symbol) (position : Nat) :
      Makes (.symbol shape) (.symbol shape position)

namespace Makes

theorem token?_eq {lexeme : Lexeme} {token : Token}
    (makes : lexeme.Makes token) (place : Nat) :
    lexeme.token? place = some (token.relocate fun _ => place) := by
  cases makes with
  | literal position read => simp [token?, read, Token.relocate]
  | word text position => rfl
  | symbol shape position => rfl

theorem lexeme_eq {lexeme : Lexeme} {token : Token}
    (makes : lexeme.Makes token) : token.lexeme.toList = lexeme.text := by
  cases makes with
  | literal position read => exact String.toList_ofList
  | word text position => exact String.toList_ofList
  | symbol shape position => exact String.toList_singleton shape.char

theorem relocate {lexeme : Lexeme} {token : Token}
    (makes : lexeme.Makes token) (place : Nat → Nat) :
    lexeme.Makes (token.relocate place) := by
  cases makes with
  | literal position read => exact .literal (place position) read
  | word text position => exact .word text (place position)
  | symbol shape position => exact .symbol shape (place position)

end Makes

/-- The tokens are those of the lexemes of a cut, at any positions. -/
def MakesAll (cut : List Lexeme) (tokens : List Token) : Prop :=
  List.Forall₂ Makes cut tokens

theorem MakesAll.relocate {cut : List Lexeme} {tokens : List Token}
    (makes : MakesAll cut tokens) (place : Nat → Nat) :
    MakesAll cut (tokens.map (Token.relocate place)) :=
  List.forall₂_map_right_iff.mpr <|
    makes.imp fun _ _ made => made.relocate place

theorem MakesAll.lexemes_eq {cut : List Lexeme} {tokens : List Token}
    (makes : MakesAll cut tokens) :
    tokens.map (fun token => token.lexeme.toList) = cut.map Lexeme.text := by
  induction makes with
  | nil => rfl
  | cons made _ inductionHypothesis =>
      rw [List.map_cons, List.map_cons, made.lexeme_eq, inductionHypothesis]

/-! ## Lexemes with a symbol behind them -/

/-- A symbol or the end stands at the beginning of the text. -/
def Separated (text : List Char) : Prop :=
  ∀ character ∈ text.head?, ∃ shape : Symbol, character = shape.char

theorem Separated.isLetter {text : List Char} (separated : Separated text) :
    ∀ character ∈ text.head?, Text.isLetter character = false := by
  intro character member
  obtain ⟨shape, rfl⟩ := separated character member
  exact Symbol.isLetter_char shape

theorem Separated.isNumeral {text : List Char} (separated : Separated text) :
    ∀ character ∈ text.head?, isNumeral character = false := by
  intro character member
  obtain ⟨shape, rfl⟩ := separated character member
  exact Symbol.isNumeral_char shape

theorem Separated.exponentRun_eq_nil {text : List Char}
    (separated : Separated text) : exponentRun text = [] := by
  cases text with
  | nil => rfl
  | cons character text =>
      have noLetter := separated.isLetter character (by simp)
      have noMark : ¬ (character = 'e' ∨ character = 'E') := by
        intro marked
        rw [isLetter_of_exponentMark marked] at noLetter
        contradiction
      simp [exponentRun, noMark]

theorem Separated.takeWhile_isDigit {text : List Char}
    (separated : Separated text) : text.takeWhile Char.isDigit = [] := by
  cases text with
  | nil => rfl
  | cons character text =>
      have noNumeral := separated.isNumeral character (by simp)
      have noDigit : character.isDigit = false := by
        rw [Bool.eq_false_iff]
        intro digit
        rw [isNumeral_of_isDigit digit] at noNumeral
        contradiction
      simp [noDigit]

theorem isNumeral_of_isMantissa {mantissa : List Char}
    (shape : Literal.IsMantissa mantissa) :
    ∀ character ∈ mantissa, isNumeral character = true := by
  intro character member
  rcases shape with ⟨digits, -⟩ | ⟨whole, fraction, rfl, wholeDigits,
    fractionDigits, -⟩
  · exact isNumeral_of_isDigit (digits character member)
  · rcases List.mem_append.mp member with inWhole | behind
    · exact isNumeral_of_isDigit (wholeDigits character inWhole)
    · rcases List.mem_cons.mp behind with rfl | inFraction
      · decide
      · exact isNumeral_of_isDigit (fractionDigits character inFraction)

/-- A literal in front of a symbol or the end is found in full. -/
theorem literalRun_of_isUnsigned {run following : List Char}
    (shape : Literal.IsUnsigned run) (separated : Separated following) :
    literalRun (run ++ following) = run := by
  obtain ⟨mantissa, exponent, rfl, mantissaShape, exponentShape⟩ := shape
  rw [List.append_assoc,
    literalRun_append (isNumeral_of_isMantissa mantissaShape)]
  rcases exponentShape with rfl | ⟨mark, sign, digits, rfl, marked, signed,
    allDigits, nonempty⟩
  · rw [List.nil_append, literalRun_of_head separated.isNumeral,
      separated.exponentRun_eq_nil]
  · have noNumeral := isNumeral_of_exponentMark marked
    rw [literalRun_of_head (by simpa using noNumeral), List.cons_append,
      List.append_assoc,
      exponentRun_append marked signed allDigits (.inr nonempty),
      separated.takeWhile_isDigit, List.append_nil]

theorem isOutline_of_isUnsigned {run : List Char}
    (shape : Literal.IsUnsigned run) : IsOutline run := by
  obtain ⟨mantissa, exponent, rfl, mantissaShape, exponentShape⟩ := shape
  refine ⟨mantissa, exponent, rfl, ?_, isNumeral_of_isMantissa mantissaShape, ?_⟩
  · rcases mantissaShape with ⟨-, nonempty⟩ | ⟨whole, fraction, rfl, -, -, -⟩
    · exact nonempty
    · simp
  · rcases exponentShape with rfl | ⟨mark, sign, digits, rfl, marked, signed,
      allDigits, -⟩
    · exact .inl rfl
    · exact .inr ⟨mark, sign, digits, rfl, marked, signed, allDigits⟩

theorem fits_literal {text following : List Char}
    (valid : (Lexeme.literal text).Valid) (separated : Separated following) :
    (Lexeme.literal text).Fits false following := by
  obtain ⟨noPlus, hasValue⟩ := valid
  obtain ⟨value, read⟩ := Option.isSome_iff_exists.mp hasValue
  obtain ⟨sign, mantissa, exponent, rfl, signed, mantissaShape, exponentShape⟩ :=
    Literal.isLiteral_of_accepting (Literal.accepting_of_value? read)
  have shape : Literal.IsUnsigned (mantissa ++ exponent) :=
    ⟨mantissa, exponent, rfl, mantissaShape, exponentShape⟩
  refine ⟨sign, mantissa ++ exponent, rfl, ?_, ?_⟩
  · rcases signed with rfl | rfl | rfl
    · exact .inl rfl
    · simp at noPlus
    · exact .inr ⟨rfl, rfl⟩
  · have starts :=
      @startsLiteral_of_isOutline _ following (isOutline_of_isUnsigned shape)
    have longest := isLongestPrefix_literalRun starts
    rwa [literalRun_of_isUnsigned shape separated] at longest

end Lexeme

/-! ## Along the steps of the reader -/

namespace Reader

/-- Whether the reader stands behind a whole operand. -/
def behindOperand (reader : Reader) : Bool :=
  match reader.expecting with
  | .operator _ => true
  | _ => false

/-- The scanner and the reader agree on where operands end. -/
theorem Takes.behindOperand_eq {level : Level} {reader next : Reader}
    {token : Token} (takes : Takes level reader token next) :
    next.behindOperand = token.category.endsOperand := by
  cases takes with
  | number groups pending text value position => rfl
  | name groups pending named => rw [named]; rfl
  | function groups pending named => rw [named]; rfl
  | group groups pending opened => rw [opened]; rfl
  | call groups pending function opened => rw [opened]; rfl
  | operator groups pending left signed admitted => rw [signed]; rfl
  | close group groups pending left closed => rw [closed]; rfl

/-- A number is taken where an operand is awaited, and none is awaited then. -/
theorem Takes.of_number {level : Level} {reader next : Reader} {text : String}
    {value : Float} {position : Nat}
    (takes : Takes level reader (.number text value position) next) :
    reader.expecting = .operand ∧ next.expecting ≠ .operand := by
  cases takes with
  | number groups pending => exact ⟨rfl, by simp⟩
  | name groups pending named => simp [Token.category] at named
  | function groups pending named => simp [Token.category] at named
  | group groups pending opened => simp [Token.category] at opened
  | call groups pending function opened => simp [Token.category] at opened
  | operator groups pending left signed => simp [Token.category] at signed
  | close group groups pending left closed => simp [Token.category] at closed

theorem category_word (text : String) (position : Nat) :
    (Token.word text position).category = .identifier ∨
      ∃ function, (Token.word text position).category = .function function := by
  rw [Token.category]
  cases Function.ofWord? text with
  | none => exact .inl rfl
  | some function => exact .inr ⟨function, rfl⟩

theorem Takes.of_word {level : Level} {reader next : Reader} {text : String}
    {position : Nat} (takes : Takes level reader (.word text position) next) :
    reader.expecting = .operand ∧ next.expecting ≠ .operand := by
  have kinds := category_word text position
  cases takes with
  | name groups pending named => exact ⟨rfl, by simp⟩
  | function groups pending named => exact ⟨rfl, by simp⟩
  | group groups pending opened => simp [opened] at kinds
  | call groups pending function opened => simp [opened] at kinds
  | operator groups pending left signed => simp [signed] at kinds
  | close group groups pending left closed => simp [closed] at kinds

/-- A minus is taken as an operator, behind an operand. -/
theorem Takes.of_minus {level : Level} {reader next : Reader} {position : Nat}
    (takes : Takes level reader (.symbol (.operator .sub) position) next) :
    reader.behindOperand = true := by
  cases takes with
  | operator groups pending left signed => rfl
  | name groups pending named => simp [Token.category] at named
  | function groups pending named => simp [Token.category] at named
  | group groups pending opened => simp [Token.category] at opened
  | call groups pending function opened => simp [Token.category] at opened
  | close group groups pending left closed => simp [Token.category] at closed

theorem behindOperand_eq_false {reader : Reader}
    (awaited : reader.expecting = .operand) : reader.behindOperand = false := by
  simp [behindOperand, awaited]

/-- Where no operand is awaited, the lexemes that the reader takes begin with a
symbol. -/
theorem Passes.separated {level : Level} {reader last : Reader}
    {cut : List Lexeme} {tokens : List Token}
    (passes : Passes level reader tokens last)
    (makes : Lexeme.MakesAll cut tokens)
    (waiting : reader.expecting ≠ .operand) :
    Lexeme.Separated (cut.flatMap Lexeme.text) := by
  cases passes with
  | refl =>
      cases makes
      simp [Lexeme.Separated]
  | step takes passes =>
      cases makes with
      | cons made others =>
          cases made with
          | literal position read => exact absurd takes.of_number.1 waiting
          | word text position => exact absurd takes.of_word.1 waiting
          | symbol shape position =>
              intro character member
              refine ⟨shape, ?_⟩
              simpa [Lexeme.text, eq_comm] using member

/-- A valid lexeme whose token the reader takes fits, if the reader takes the
lexemes behind it. -/
theorem Takes.fits {level : Level} {reader middle last : Reader}
    {lexeme : Lexeme} {cut : List Lexeme} {token : Token}
    {tokens : List Token} (takes : Takes level reader token middle)
    (passes : Passes level middle tokens last)
    (made : lexeme.Makes token) (makes : Lexeme.MakesAll cut tokens)
    (valid : lexeme.Valid) :
    lexeme.Fits reader.behindOperand (cut.flatMap Lexeme.text) := by
  cases made with
  | literal position read =>
      obtain ⟨awaited, waiting⟩ := takes.of_number
      rw [behindOperand_eq_false awaited]
      exact Lexeme.fits_literal valid (passes.separated makes waiting)
  | word text position =>
      obtain ⟨nonempty, letters⟩ := valid
      have separated := passes.separated makes takes.of_word.2
      exact ⟨nonempty, letters, separated.isLetter⟩
  | symbol shape position =>
      rintro rfl -
      exact takes.of_minus

/-- The scanner cuts the lexemes that the reader takes as they are, wherever the
text stands. -/
theorem Passes.exists_scans {level : Level} {reader last : Reader}
    {cut : List Lexeme} {tokens : List Token}
    (passes : Passes level reader tokens last)
    (makes : Lexeme.MakesAll cut tokens)
    (valid : ∀ lexeme ∈ cut, lexeme.Valid) (previous : Option Token)
    (agrees : endsOperand previous = reader.behindOperand) (place : Nat) :
    ∃ scanned,
      Scans previous place (cut.flatMap Lexeme.text) scanned ∧
      Lexeme.MakesAll cut scanned ∧
      Passes level reader scanned last := by
  induction passes generalizing cut previous place with
  | refl reader =>
      cases makes
      exact ⟨[], .done previous place, .nil, .refl reader⟩
  | @step reader middle last token tokens takes passes inductionHypothesis =>
      cases makes with
      | @cons lexeme _ cut _ made makes =>
          have fits := takes.fits passes made makes (valid lexeme (by simp))
          rw [← agrees] at fits
          have moved := takes.relocate fun _ => place
          obtain ⟨scanned, scans, others, rest⟩ :=
            inductionHypothesis makes
              (fun other member => valid other (by simp [member]))
              (some (token.relocate fun _ => place))
              moved.behindOperand_eq.symm
              (place + lexeme.text.length)
          exact ⟨token.relocate (fun _ => place) :: scanned,
            .step fits (made.token?_eq place) scans,
            .cons (made.relocate _) others, .step moved rest⟩

end Reader

/-! ## The only reading -/

/-- A source whose visible text can be cut into valid lexemes that make the
tokens of a formula has exactly these lexemes and the tree of that formula. -/
theorem analyze_of_cut {source : String} {cut : List Lexeme}
    {tokens : List Token} {tree : Tree}
    (covers : cut.flatMap Lexeme.text = Text.visible source.toList)
    (valid : ∀ lexeme ∈ cut, lexeme.Valid)
    (makes : Lexeme.MakesAll cut tokens)
    (read : Tree.ofTokens tokens = .ok tree) :
    ∃ scanned,
      scan source = .ok scanned ∧
      Lexeme.MakesAll cut scanned ∧
      analyze source = .ok ⟨scanned, tree, tree.variableNames⟩ := by
  obtain ⟨last, passes, concluded⟩ :=
    run_eq_ok_iff.mp (Tree.ofTokens_eq_ok_iff_run.mp read)
  obtain ⟨ranked, scans, made, rankedPasses⟩ :=
    passes.exists_scans makes valid none rfl 0
  rw [covers] at scans
  have scanned := scan_eq_ok_iff.mpr ⟨ranked, scans, rfl⟩
  have scannedPasses := rankedPasses.relocate (Text.offsetOf source.toList)
  have scannedTree := Tree.ofTokens_eq_ok_iff_run.mpr
    (run_eq_ok_iff.mpr ⟨last, scannedPasses, concluded⟩)
  refine ⟨_, scanned, made.relocate _, ?_⟩
  simp only [analyze, scanned, scannedTree]

/-- The reading of a source is unique, and the scanner finds it: however the
visible text is cut into valid lexemes, if their tokens make a formula, then
these are the lexemes of the source and this is its tree. -/
theorem scan_finds_only_reading {source : String} {cut : List Lexeme}
    {tokens : List Token} {tree : Tree}
    (covers : cut.flatMap Lexeme.text = Text.visible source.toList)
    (valid : ∀ lexeme ∈ cut, lexeme.Valid)
    (makes : Lexeme.MakesAll cut tokens)
    (read : Tree.ofTokens tokens = .ok tree) :
    ∃ scanned,
      scan source = .ok scanned ∧
      scanned.map (fun token => token.lexeme.toList) =
        cut.map Lexeme.text ∧
      Lexeme.MakesAll cut scanned ∧
      analyze source = .ok ⟨scanned, tree, tree.variableNames⟩ := by
  obtain ⟨scanned, found, made, analyzed⟩ :=
    analyze_of_cut covers valid makes read
  exact ⟨scanned, found, made.lexemes_eq, made, analyzed⟩

/-- A minus that subtracts, one that is the sign of a literal and one that is the
sign of its exponent, told apart. -/
theorem scan_finds_only_reading_of_minuses :
    ∃ scanned,
      scan "4 - -1e-2 * x" = .ok scanned ∧
      scanned.map (fun token => token.lexeme.toList) =
        [['4'], ['-'], ['-', '1', 'e', '-', '2'], ['*'], ['x']] ∧
      Lexeme.MakesAll
        [.literal ['4'], .symbol (.operator .sub),
          .literal ['-', '1', 'e', '-', '2'], .symbol (.operator .mul),
          .word ['x']]
        scanned ∧
      analyze "4 - -1e-2 * x" =
        .ok ⟨scanned,
          .binary .sub (.const (Number.ofLiteral ['4']))
            (.binary .mul
              (.const (Number.ofLiteral ['-', '1', 'e', '-', '2']))
              (.var "x")),
          ["x"]⟩ :=
  @scan_finds_only_reading "4 - -1e-2 * x"
    [.literal ['4'], .symbol (.operator .sub),
      .literal ['-', '1', 'e', '-', '2'], .symbol (.operator .mul),
      .word ['x']]
    [.number "4" (Number.ofLiteral ['4']) 0, .symbol (.operator .sub) 1,
      .number "-1e-2" (Number.ofLiteral ['-', '1', 'e', '-', '2']) 2,
      .symbol (.operator .mul) 7, .word "x" 8]
    (.binary .sub (.const (Number.ofLiteral ['4']))
      (.binary .mul (.const (Number.ofLiteral ['-', '1', 'e', '-', '2']))
        (.var "x")))
    (by decide) (by decide +kernel)
    (.cons (.literal 0 (by decide +kernel)) (.cons (.symbol _ 1)
      (.cons (.literal 2 (by decide +kernel)) (.cons (.symbol _ 7)
        (.cons (.word _ 8) .nil)))))
    (by rfl)

end Formula
