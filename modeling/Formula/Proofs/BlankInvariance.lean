import Formula.Evaluation
import Formula.Proofs.ScanSteps
import Mathlib.Data.List.Forall2

/-!
# Blanks mean nothing

Two sources with the same visible text have the same tokens, the same tree and
the same value, or fail in the same way.  Only positions differ, and a position
in one source and its counterpart in the other lead to the same character of the
visible text.

The scanner sees the visible text alone, so its answers for the two sources are
one answer with its places turned into offsets in two ways.  The reader and the
evaluation never look at a position; the reader only copies the position of one
token into an error.  This is said for any relation between positions, and the
relation of the two sources is used in the end.
-/

namespace Formula

/-! ## Positions in two sources -/

/-- `SamePlace first second position other` means that the two positions lead to
the same character of the visible text: a character that is not blank and has
equally many visible characters before it. -/
def SamePlace (first second : String) (position other : Nat) : Prop :=
  ∃ character rank,
    Text.StandsAt first.toList character rank position ∧
    Text.StandsAt second.toList character rank other

theorem samePlace_offsetOf {first second : String} {rank : Nat}
    (sameText : Text.visible first.toList = Text.visible second.toList)
    (within : rank < (Text.visible first.toList).length) :
    SamePlace first second (Text.offsetOf first.toList rank)
      (Text.offsetOf second.toList rank) := by
  obtain ⟨character, inFirst⟩ :
      ∃ character, (Text.visible first.toList)[rank]? = some character :=
    ⟨_, List.getElem?_eq_getElem within⟩
  have inSecond : (Text.visible second.toList)[rank]? = some character := by
    rw [← sameText]
    exact inFirst
  exact ⟨character, rank, Text.standsAt_offsetOf inFirst,
    Text.standsAt_offsetOf inSecond⟩

/-! ## Equality up to positions -/

/-- Two answers that are both errors or both results, with related contents. -/
inductive SameOutcome {Cause Result : Type} (causes : Cause → Cause → Prop)
    (results : Result → Result → Prop) :
    Except Cause Result → Except Cause Result → Prop
  | error {first second : Cause} :
      causes first second →
      SameOutcome causes results (.error first) (.error second)
  | ok {first second : Result} :
      results first second →
      SameOutcome causes results (.ok first) (.ok second)

theorem SameOutcome.error_or_ok {Cause Result : Type}
    {causes : Cause → Cause → Prop} {results : Result → Result → Prop}
    {first second : Except Cause Result}
    (same : SameOutcome causes results first second) :
    (∃ firstCause secondCause,
      first = .error firstCause ∧ second = .error secondCause ∧
        causes firstCause secondCause) ∨
    ∃ firstResult secondResult,
      first = .ok firstResult ∧ second = .ok secondResult ∧
        results firstResult secondResult := by
  cases same with
  | error related => exact .inl ⟨_, _, rfl, rfl, related⟩
  | ok related => exact .inr ⟨_, _, rfl, rfl, related⟩

section UpToPositions

variable (places : Nat → Nat → Prop)

/-- Tokens that differ at most in their positions, which are related. -/
structure Token.Alike (first second : Token) : Prop where
  lexeme : first.lexeme = second.lexeme
  category : first.category = second.category
  value : first.value? = second.value?
  position : places first.position second.position

/-- The same fault of a text at related positions. -/
inductive ScanError.Alike : ScanError → ScanError → Prop
  | unrecognizedCharacter (character : Char) {position other : Nat} :
      places position other →
      Alike (.unrecognizedCharacter character position)
        (.unrecognizedCharacter character other)
  | malformedNumber (text : String) {position other : Nat} :
      places position other →
      Alike (.malformedNumber text position) (.malformedNumber text other)

/-- The same fault of a list of tokens at related positions. -/
inductive GrammarError.Alike : GrammarError → GrammarError → Prop
  | unexpectedToken (lexeme : String) (category : Category)
      {position other : Nat} :
      places position other →
      Alike (.unexpectedToken lexeme category position)
        (.unexpectedToken lexeme category other)
  | missing (expected found : Category) {position other : Nat} :
      places position other →
      Alike (.missing expected (some (found, position)))
        (.missing expected (some (found, other)))
  | missingAtEnd (expected : Category) :
      Alike (.missing expected none) (.missing expected none)
  | trailingTokens (lexeme : String) {position other : Nat} :
      places position other →
      Alike (.trailingTokens lexeme position) (.trailingTokens lexeme other)
  | incompleteExpression : Alike .incompleteExpression .incompleteExpression

/-- The same fault of a source at related positions. -/
inductive Error.Alike : Error → Error → Prop
  | scanning {first second : ScanError} :
      first.Alike places second →
      Alike (.scanning first) (.scanning second)
  | grammar {first second : GrammarError} :
      first.Alike places second →
      Alike (.grammar first) (.grammar second)
  | evaluation (cause : EvaluationError) :
      Alike (.evaluation cause) (.evaluation cause)

/-- The same tree and variables, from tokens that are alike. -/
structure Analysis.Alike (first second : Analysis) : Prop where
  tokens : List.Forall₂ (Token.Alike places) first.tokens second.tokens
  tree : first.tree = second.tree
  variableNames : first.variableNames = second.variableNames

end UpToPositions

/-! ## Reading tokens that are alike -/

namespace Reader

variable {places : Nat → Nat → Prop}

theorem advance?_eq_of_alike {first second : Token}
    (alike : first.Alike places second) (level : Level) (reader : Reader) :
    reader.advance? level first = reader.advance? level second := by
  simp only [advance?, alike.lexeme, alike.category, alike.value]

theorem missing_alike {next other : Option Token}
    (alike : Option.Rel (Token.Alike places) next other)
    (expected : Category) :
    (missing expected next).Alike places (missing expected other) := by
  cases alike with
  | none => exact .missingAtEnd expected
  | some alike =>
      simp only [missing, Option.map_some, alike.category]
      exact .missing expected _ alike.position

theorem conclude_sameOutcome {next other : Option Token}
    (alike : Option.Rel (Token.Alike places) next other) (reader : Reader) :
    SameOutcome (GrammarError.Alike places) Eq (reader.conclude next)
      (reader.conclude other) := by
  obtain ⟨groups, pending, expecting⟩ := reader
  cases expecting with
  | operand =>
      cases alike with
      | none => exact .error .incompleteExpression
      | some alike =>
          simp only [conclude, alike.lexeme, alike.category]
          exact .error (.unexpectedToken _ _ alike.position)
  | opening function => exact .error (missing_alike alike .leftParen)
  | operator left =>
      cases groups with
      | nil => exact .ok rfl
      | cons group groups => exact .error (missing_alike alike .rightParen)

/-- The reader takes equally many of the tokens and answers alike. -/
theorem run_sameOutcome {tokens others : List Token}
    (alike : List.Forall₂ (Token.Alike places) tokens others)
    (level : Level) (reader : Reader) :
    SameOutcome (GrammarError.Alike places) Eq (reader.run level tokens).1
      (reader.run level others).1 ∧
    List.Forall₂ (Token.Alike places) (reader.run level tokens).2
      (reader.run level others).2 := by
  induction alike generalizing reader with
  | nil => exact ⟨conclude_sameOutcome .none reader, .nil⟩
  | @cons token other tokens others first rest inductionHypothesis =>
      have sameStep := advance?_eq_of_alike first level reader
      cases advanced : reader.advance? level token with
      | none =>
          rw [advanced] at sameStep
          simp only [run, advanced, ← sameStep]
          exact ⟨conclude_sameOutcome (.some first) reader, .cons first rest⟩
      | some next =>
          rw [advanced] at sameStep
          simp only [run, advanced, ← sameStep]
          exact inductionHypothesis next

end Reader

theorem ofTokens_sameOutcome {places : Nat → Nat → Prop}
    {tokens others : List Token}
    (alike : List.Forall₂ (Token.Alike places) tokens others) :
    SameOutcome (GrammarError.Alike places) Eq (Tree.ofTokens tokens)
      (Tree.ofTokens others) := by
  obtain ⟨sameAnswer, sameRest⟩ :=
    Reader.run_sameOutcome alike .sum Reader.initial
  cases first : Reader.initial.run .sum tokens with
  | mk firstAnswer firstRest =>
      cases second : Reader.initial.run .sum others with
      | mk secondAnswer secondRest =>
          rw [first, second] at sameAnswer sameRest
          simp only [Tree.ofTokens, Tree.readFront, first, second]
          cases sameAnswer with
          | error causes => exact .error causes
          | ok trees =>
              cases sameRest with
              | nil => exact .ok trees
              | cons token _ =>
                  simp only [token.lexeme]
                  exact .error (.trailingTokens _ token.position)

/-! ## Scanning the same visible text -/

/-- The positions in an answer of the scanner. -/
def reported : Except ScanError (List Token) → List Nat
  | .ok tokens => tokens.map Token.position
  | .error cause => [cause.position]

theorem mem_reported_map_cons {token : Token}
    {answer : Except ScanError (List Token)} {position : Nat}
    (member : position ∈ reported (answer.map (token :: ·))) :
    position = token.position ∨ position ∈ reported answer := by
  cases answer with
  | error cause => exact .inr member
  | ok tokens => simpa [reported, Except.map] using member

/-- Every position in an answer is the place of a character of the text. -/
theorem lt_of_mem_reported {afterOperand : Bool} {taken place : Nat}
    {text : List Char} {position : Nat}
    (member :
      position ∈ reported (scanFrom afterOperand taken place text)) :
    position < place + text.length := by
  induction text generalizing afterOperand taken place with
  | nil => simp [scanFrom, reported] at member
  | cons character rest inductionHypothesis =>
      rw [List.length_cons]
      cases taken with
      | succ taken =>
          rw [scanFrom] at member
          have later := inductionHypothesis member
          omega
      | zero =>
          cases chosen : Lexeme.first? afterOperand (character :: rest) with
          | none =>
              have here : position = place := by
                simpa [scanFrom, chosen, reported, ScanError.position]
                  using member
              omega
          | some lexeme =>
              cases made : lexeme.token? place with
              | none =>
                  have here : position = place := by
                    simpa [scanFrom, chosen, made, reported,
                      ScanError.position] using member
                  omega
              | some token =>
                  simp only [scanFrom, chosen, made] at member
                  have located := (Lexeme.token?_spec made).2
                  rcases mem_reported_map_cons member with here | behind
                  · omega
                  · have later := inductionHypothesis behind
                    omega

theorem Token.alike_relocate {first second : String} {token : Token}
    (sameText : Text.visible first.toList = Text.visible second.toList)
    (within : token.position < (Text.visible first.toList).length) :
    (token.relocate (Text.offsetOf first.toList)).Alike
      (SamePlace first second)
      (token.relocate (Text.offsetOf second.toList)) := by
  have samePlace := samePlace_offsetOf sameText within
  exact ⟨by simp, by simp, by simp, by simpa using samePlace⟩

theorem ScanError.alike_relocate {first second : String} {cause : ScanError}
    (sameText : Text.visible first.toList = Text.visible second.toList)
    (within : cause.position < (Text.visible first.toList).length) :
    (cause.relocate (Text.offsetOf first.toList)).Alike
      (SamePlace first second)
      (cause.relocate (Text.offsetOf second.toList)) := by
  have samePlace := samePlace_offsetOf sameText within
  cases cause with
  | unrecognizedCharacter character position =>
      exact .unrecognizedCharacter character samePlace
  | malformedNumber text position => exact .malformedNumber text samePlace

theorem scan_sameOutcome {first second : String}
    (sameText : Text.visible first.toList = Text.visible second.toList) :
    SameOutcome (ScanError.Alike (SamePlace first second))
      (List.Forall₂ (Token.Alike (SamePlace first second)))
      (scan first) (scan second) := by
  have within : ∀ position ∈
      reported (scanFrom false 0 0 (Text.visible first.toList)),
      position < (Text.visible first.toList).length := by
    intro position member
    simpa using lt_of_mem_reported member
  -- One answer of the scanner, relocated in two ways.
  rw [scan_eq_relocate, scan_eq_relocate, ← sameText]
  cases answer : scanFrom false 0 0 (Text.visible first.toList) with
  | error cause =>
      rw [answer] at within
      have inside := within cause.position (by simp [reported])
      exact .error (ScanError.alike_relocate sameText inside)
  | ok tokens =>
      rw [answer] at within
      refine .ok ?_
      rw [List.forall₂_map_left_iff, List.forall₂_map_right_iff,
        List.forall₂_same]
      intro token member
      have inside := within token.position (List.mem_map_of_mem member)
      exact Token.alike_relocate sameText inside

/-! ## Sources -/

theorem analyze_sameOutcome {first second : String}
    (sameText : Text.visible first.toList = Text.visible second.toList) :
    SameOutcome (Error.Alike (SamePlace first second))
      (Analysis.Alike (SamePlace first second))
      (analyze first) (analyze second) := by
  rcases (scan_sameOutcome sameText).error_or_ok with
    ⟨_, _, firstFailed, secondFailed, causes⟩ |
      ⟨tokens, others, firstScanned, secondScanned, alike⟩
  · simp only [analyze, firstFailed, secondFailed]
    exact .error (.scanning causes)
  · rcases (ofTokens_sameOutcome alike).error_or_ok with
      ⟨_, _, firstFailed, secondFailed, causes⟩ |
        ⟨tree, _, firstRead, secondRead, rfl⟩
    · simp only [analyze, firstScanned, secondScanned, firstFailed,
        secondFailed]
      exact .error (.grammar causes)
    · simp only [analyze, firstScanned, secondScanned, firstRead, secondRead]
      exact .ok ⟨alike, rfl, rfl⟩

theorem evaluate_sameOutcome {first second : String}
    (sameText : Text.visible first.toList = Text.visible second.toList)
    (bindings : Bindings) :
    SameOutcome (Error.Alike (SamePlace first second)) Eq
      (evaluate first bindings) (evaluate second bindings) := by
  rcases (analyze_sameOutcome sameText).error_or_ok with
    ⟨_, _, firstFailed, secondFailed, causes⟩ |
      ⟨analysis, other, firstAnalyzed, secondAnalyzed, alike⟩
  · simp only [evaluate, firstFailed, secondFailed]
    exact .error causes
  · simp only [evaluate, firstAnalyzed, secondAnalyzed, alike.tree]
    cases other.tree.eval bindings with
    | error cause => exact .error (.evaluation cause)
    | ok value => exact .ok rfl

/-- The sources have the same tokens, the same analysis and under all bindings
the same value, or they fail in the same way.  Positions lead to the same
characters of the visible text. -/
structure SameMeaning (first second : String) : Prop where
  tokens :
    SameOutcome (ScanError.Alike (SamePlace first second))
      (List.Forall₂ (Token.Alike (SamePlace first second)))
      (scan first) (scan second)
  analysis :
    SameOutcome (Error.Alike (SamePlace first second))
      (Analysis.Alike (SamePlace first second))
      (analyze first) (analyze second)
  value : ∀ bindings : Bindings,
    SameOutcome (Error.Alike (SamePlace first second)) Eq
      (evaluate first bindings) (evaluate second bindings)

/-- Sources that differ in their blanks alone have the same meaning. -/
theorem blanks_mean_nothing {first second : String}
    (sameText : Text.visible first.toList = Text.visible second.toList) :
    SameMeaning first second := by
  refine ⟨scan_sameOutcome sameText, analyze_sameOutcome sameText, ?_⟩
  intro bindings
  exact evaluate_sameOutcome sameText bindings

/-- Blanks in a word, in an exponent, behind a sign and before the parenthesis
that is one too many. -/
theorem blanks_mean_nothing_in_lexemes :
    Text.visible "s in( - 1 e\u2003-5 )\t)".toList =
      Text.visible "sin(-1e-5))".toList ∧
    SameMeaning "s in( - 1 e\u2003-5 )\t)" "sin(-1e-5))" :=
  ⟨by decide, blanks_mean_nothing (by decide)⟩

end Formula
