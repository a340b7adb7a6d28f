import Formula.Proofs.ReaderGrammar
import Formula.Proofs.Segmentation
import Formula.Proofs.UniqueReading

/-!
# Literals are the numbers of a source

A literal is described three times: by the automaton that decides whether a text
has a value, by the look that the scanner goes by, and by the rule that makes a
minus the sign of what follows.  They agree.  A text with a value is one token
of the scanner, unless it begins with a plus, which is never a sign; and the
numbers that the scanner finds have the values of their texts.
-/

namespace Formula

/-- A text with a value and without a plus in front is one number. -/
theorem scan_of_value? {text : String} {value : Float}
    (read : Literal.value? text.toList = some value)
    (noPlus : text.toList.head? ≠ some '+') :
    scan text = .ok [.number text value 0] := by
  have valid : (Lexeme.literal text.toList).Valid :=
    ⟨noPlus, by rw [read]; rfl⟩
  have ended : Lexeme.Separated [] := by simp [Lexeme.Separated]
  have made : (Lexeme.literal text.toList).token? 0 =
      some (.number text value 0) := by
    simp [Lexeme.token?, read]
  exact scan_of_lexeme rfl
    (Literal.isBlank_eq_false_of_accepting (Literal.accepting_of_value? read))
    (Lexeme.fits_literal valid ended) made

theorem evaluate_of_number {text : String} {value : Float}
    (scanned : scan text = .ok [.number text value 0]) (bindings : Bindings) :
    evaluate text bindings = .ok value := by
  have derivation : Derives .expression [.number text value 0] (.const value) :=
    (Derives.number text value 0).loosen (Nat.zero_le _)
  have read : Tree.ofTokens [.number text value 0] = .ok (.const value) :=
    ofTokens_eq_ok_iff_derives.mpr derivation
  simp [evaluate, analyze, scanned, read, Tree.eval, Tree.evalWith,
    Except.mapError]

/-- The numbers of a source have the values of their texts. -/
theorem value?_of_mem_scan {source : String} {tokens : List Token}
    (scanned : scan source = .ok tokens) {token : Token}
    (member : token ∈ tokens) (numeric : token.category = .number) :
    ∃ value,
      token.value? = some value ∧
      Literal.value? token.lexeme.toList = some value := by
  obtain ⟨ranked, scans, rfl⟩ := scan_eq_ok_iff.mp scanned
  obtain ⟨before, after, fits⟩ := (segments_of_scans scans).fits.of_mem member
  obtain ⟨text, value, position, rfl⟩ :=
    Token.exists_number_of_category numeric
  obtain ⟨sign, run, -, -, -, read⟩ := fits
  exact ⟨value, rfl, read⟩

/-- Scanning and validating agree on literals: a text with a value that does not
begin with a plus is scanned as one number with that value, and it is a formula
with that value under all bindings; and every number that is scanned is finite
and has the value of its text. -/
theorem scanner_agrees_with_validator :
    (∀ (text : String) (value : Float),
      Literal.value? text.toList = some value →
      text.toList.head? ≠ some '+' →
      scan text = .ok [.number text value 0] ∧
      ∀ bindings : Bindings, evaluate text bindings = .ok value) ∧
    ∀ (source : String) (tokens : List Token), scan source = .ok tokens →
      ∀ token ∈ tokens, token.category = .number →
        ∃ value,
          token.value? = some value ∧
          value.isFinite = true ∧
          Literal.value? token.lexeme.toList = some value := by
  constructor
  · intro text value read noPlus
    have scanned := scan_of_value? read noPlus
    exact ⟨scanned, evaluate_of_number scanned⟩
  · intro source tokens scanned token member numeric
    obtain ⟨value, valued, read⟩ := value?_of_mem_scan scanned member numeric
    exact ⟨value, valued, Literal.isFinite_of_value? read, read⟩

/-- A literal with every optional part, alone and behind an operator. -/
theorem scanner_agrees_with_validator_on_signs :
    (Literal.value? "-.5e-3".toList =
        some (Number.ofLiteral "-.5e-3".toList) ∧
      scan "-.5e-3" =
        .ok [.number "-.5e-3" (Number.ofLiteral "-.5e-3".toList) 0] ∧
      ∀ bindings,
        evaluate "-.5e-3" bindings =
          .ok (Number.ofLiteral "-.5e-3".toList)) ∧
    scan "x*-7." =
      .ok [.word "x" 0, .symbol (.operator .mul) 1,
        .number "-7." (Number.ofLiteral "-7.".toList) 2] ∧
    ∃ value,
      (Token.number "-7." (Number.ofLiteral "-7.".toList) 2).value? =
        some value ∧
      value.isFinite = true ∧
      Literal.value? "-7.".toList = some value := by
  have read : Literal.value? "-.5e-3".toList =
      some (Number.ofLiteral "-.5e-3".toList) := by
    decide +kernel
  have scanned : scan "x*-7." =
      .ok [.word "x" 0, .symbol (.operator .mul) 1,
        .number "-7." (Number.ofLiteral "-7.".toList) 2] := by
    decide +kernel
  obtain ⟨alone, among⟩ := scanner_agrees_with_validator
  exact ⟨⟨read, alone _ _ read (by decide)⟩, scanned,
    among _ _ scanned _ (by simp) rfl⟩

end Formula
