import Formula.Proofs.NumberText
import Formula.Proofs.ReaderGrammar
import Formula.Proofs.UniqueReading
import Formula.Tree

/-!
# The text of a tree is read as that tree

A tree is well formed when its constants are finite and its names are words that
name no function.  The text of such a tree has the tree as its analysis, and
every tree that an analysis gives is well formed.  So a formula may be replaced
by the text of its tree, and its value stays the same under all bindings.

The text of a tree is cut into lexemes by the tree itself.  These lexemes make
the tokens of a primary, whatever the tree: an operation and a constant with a
sign stand in parentheses, and everything else is a primary without them.  As a
reading of a source is unique, it is not necessary to follow the scanner through
the text.
-/

namespace Formula

namespace Tree

/-- The constants are finite, and the names are words that name no function. -/
def WellFormed : Tree → Prop
  | .const value => value.isFinite = true
  | .var name =>
      name ≠ "" ∧
      (∀ character ∈ name.toList, Text.isLetter character = true) ∧
      Function.ofWord? name = none
  | .binary _ left right => left.WellFormed ∧ right.WellFormed
  | .call _ argument => argument.WellFormed

instance decidableWellFormed : (tree : Tree) → Decidable tree.WellFormed
  | .const value => inferInstanceAs (Decidable (value.isFinite = true))
  | .var name =>
      have := name.toList.decidableBAll fun character =>
        Text.isLetter character = true
      inferInstanceAs (Decidable
        (name ≠ "" ∧
          (∀ character ∈ name.toList, Text.isLetter character = true) ∧
          Function.ofWord? name = none))
  | .binary _ left right =>
      have := decidableWellFormed left
      have := decidableWellFormed right
      inferInstanceAs (Decidable (left.WellFormed ∧ right.WellFormed))
  | .call _ argument => decidableWellFormed argument

end Tree

/-! ## Pieces of the text -/

namespace Text

theorem visible_eq_self_of_isLetter {word : List Char}
    (letters : ∀ character ∈ word, isLetter character = true) :
    visible word = word := by
  apply visible_eq_self
  intro character member
  exact isBlank_eq_false_of_isLetter (letters character member)

theorem visible_enclosed (text : List Char) :
    visible ('(' :: (text ++ [')'])) = '(' :: (visible text ++ [')']) := by
  have opening : isBlank '(' = false := by decide
  have closing : visible [')'] = [')'] := by decide
  rw [visible_cons_of_visible opening, visible_append, closing]

theorem visible_spaced (operator : Operator) (before after : List Char) :
    visible (before ++ ' ' :: operator.symbol :: ' ' :: after) =
      visible before ++ operator.symbol :: visible after := by
  have space : isBlank ' ' = true := by decide
  have sign : isBlank operator.symbol = false :=
    Symbol.isBlank_char (.operator operator)
  rw [visible_append, visible_cons_of_blank space,
    visible_cons_of_visible sign, visible_cons_of_blank space]

end Text

namespace Function

theorem name_mem_spellings (function : Function) :
    function.name ∈ function.spellings := by
  cases function <;> decide

theorem valid_of_mem_spellings {function : Function} {spelling : String}
    (member : spelling ∈ function.spellings) :
    (Lexeme.word spelling.toList).Valid := by
  have each : ∀ word ∈ function.spellings,
      (Lexeme.word word.toList).Valid := by
    cases function <;> decide
  exact each spelling member

theorem category_word_of_mem_spellings {function : Function}
    {spelling : String} (member : spelling ∈ function.spellings) :
    (Token.word spelling 0).category = .function function := by
  have each : ∀ word ∈ function.spellings,
      (Token.word word 0).category = .function function := by
    cases function <;> decide
  exact each spelling member

theorem valid_name (function : Function) :
    (Lexeme.word function.name.toList).Valid :=
  valid_of_mem_spellings function.name_mem_spellings

end Function

namespace Number

theorem isBlank_eq_false_of_mem_plainText {value : Float}
    (finite : value.isFinite = true) :
    ∀ character ∈ (plainText value).toList,
      Text.isBlank character = false :=
  Literal.isBlank_eq_false_of_accepting
    (Literal.accepting_of_value? (value?_plainText finite))

theorem valid_plainText {value : Float} (finite : value.isFinite = true) :
    (Lexeme.literal (plainText value).toList).Valid := by
  refine ⟨?_, ?_⟩
  · obtain ⟨digit, rest, text, isDigit⟩ :=
      (shortest (code value)).denotes_positional.exists_digit
    rw [toList_plainText finite, text, signText]
    split
    · simp
    · rintro plus
      simp at plus
      subst plus
      simp at isDigit
  · rw [value?_plainText finite]
    rfl

end Number

namespace Lexeme

/-- The lexemes in parentheses. -/
def enclosed (cut : List Lexeme) : List Lexeme :=
  .symbol .leftParen :: (cut ++ [.symbol .rightParen])

theorem flatMap_text_enclosed (cut : List Lexeme) :
    (enclosed cut).flatMap text =
      '(' :: (cut.flatMap text ++ [')']) := by
  simp [enclosed, text, Symbol.char]

theorem valid_enclosed {cut : List Lexeme}
    (valid : ∀ lexeme ∈ cut, lexeme.Valid) :
    ∀ lexeme ∈ enclosed cut, lexeme.Valid := by
  intro lexeme member
  simp only [enclosed, List.mem_cons, List.mem_append, List.not_mem_nil,
    or_false] at member
  rcases member with rfl | inside | rfl
  · trivial
  · exact valid lexeme inside
  · trivial

theorem makesAll_enclosed {cut : List Lexeme} {tokens : List Token}
    (makes : MakesAll cut tokens) :
    MakesAll (enclosed cut)
      (.symbol .leftParen 0 :: (tokens ++ [.symbol .rightParen 0])) :=
  .cons (.symbol .leftParen 0)
    (List.rel_append makes (.cons (.symbol .rightParen 0) .nil))

end Lexeme

/-- A derivation of the tokens is one of the tokens in parentheses. -/
theorem Derives.enclosed {phrase : Phrase} {tokens : List Token} {tree : Tree}
    (derivation : Derives phrase tokens tree) :
    Derives .primary
      (.symbol .leftParen 0 :: (tokens ++ [.symbol .rightParen 0])) tree :=
  .group rfl (derivation.loosen (Nat.zero_le _)) rfl

/-! ## The lexemes of a tree -/

namespace Tree

/-- The lexemes in the text of a tree. -/
def lexemes : Tree → List Lexeme
  | .const value =>
      if Number.isNegative value then
        Lexeme.enclosed [.literal (Number.plainText value).toList]
      else
        [.literal (Number.plainText value).toList]
  | .var name => [.word name.toList]
  | .binary operator left right =>
      Lexeme.enclosed
        (left.lexemes ++ .symbol (.operator operator) :: right.lexemes)
  | .call function argument =>
      .word function.name.toList :: Lexeme.enclosed argument.lexemes

/-- The lexemes of a tree make up the visible part of its text. -/
theorem flatMap_text_lexemes {tree : Tree} (wellFormed : tree.WellFormed) :
    tree.lexemes.flatMap Lexeme.text = Text.visible tree.toText.toList := by
  induction tree with
  | const value =>
      have same :=
        Text.visible_eq_self
          (Number.isBlank_eq_false_of_mem_plainText wellFormed)
      by_cases negative : Number.isNegative value = true
      · have text :
            (const value).toText.toList =
              '(' :: ((Number.plainText value).toList ++ [')']) := by
          simp [toText, negative]
        rw [text, Text.visible_enclosed, same, lexemes, if_pos negative,
          Lexeme.flatMap_text_enclosed]
        simp [Lexeme.text]
      · rw [toText, if_neg negative, same, lexemes, if_neg negative]
        simp [Lexeme.text]
  | var name =>
      rw [toText, Text.visible_eq_self_of_isLetter wellFormed.2.1, lexemes]
      simp [Lexeme.text]
  | binary operator left right leftHypothesis rightHypothesis =>
      have text :
          (binary operator left right).toText.toList =
            '(' :: ((left.toText.toList ++
              ' ' :: operator.symbol :: ' ' :: right.toText.toList) ++
                [')']) := by
        simp [toText]
      rw [text, Text.visible_enclosed, Text.visible_spaced,
        ← leftHypothesis wellFormed.1, ← rightHypothesis wellFormed.2, lexemes,
        Lexeme.flatMap_text_enclosed]
      simp [Lexeme.text, Symbol.char]
  | call function argument inductionHypothesis =>
      have text :
          (call function argument).toText.toList =
            function.name.toList ++ '(' :: (argument.toText.toList ++ [')']) := by
        simp [toText]
      rw [text, Text.visible_append, Text.visible_enclosed,
        Text.visible_eq_self_of_isLetter function.valid_name.2,
        ← inductionHypothesis wellFormed, lexemes, List.flatMap_cons,
        Lexeme.flatMap_text_enclosed]
      rfl

theorem valid_lexemes {tree : Tree} (wellFormed : tree.WellFormed) :
    ∀ lexeme ∈ tree.lexemes, lexeme.Valid := by
  induction tree with
  | const value =>
      have literal :
          ∀ lexeme ∈ [Lexeme.literal (Number.plainText value).toList],
            lexeme.Valid := by
        intro lexeme member
        rw [List.mem_singleton] at member
        subst member
        exact Number.valid_plainText wellFormed
      rw [lexemes]
      split
      · exact Lexeme.valid_enclosed literal
      · exact literal
  | var name =>
      intro lexeme member
      rw [lexemes, List.mem_singleton] at member
      subst member
      exact ⟨by simpa using wellFormed.1, wellFormed.2.1⟩
  | binary operator left right leftHypothesis rightHypothesis =>
      apply Lexeme.valid_enclosed
      intro lexeme member
      rw [List.mem_append, List.mem_cons] at member
      rcases member with inLeft | rfl | inRight
      · exact leftHypothesis wellFormed.1 lexeme inLeft
      · trivial
      · exact rightHypothesis wellFormed.2 lexeme inRight
  | call function argument inductionHypothesis =>
      intro lexeme member
      rw [lexemes, List.mem_cons] at member
      rcases member with rfl | inside
      · exact function.valid_name
      · exact Lexeme.valid_enclosed (inductionHypothesis wellFormed) lexeme inside

/-! ## The tree of the lexemes -/

/-- The lexemes of a tree make the tokens of a primary with that tree. -/
theorem exists_makesAll_derives {tree : Tree} (wellFormed : tree.WellFormed) :
    ∃ tokens,
      Lexeme.MakesAll tree.lexemes tokens ∧ Derives .primary tokens tree := by
  induction tree with
  | const value =>
      have read := Number.value?_plainText wellFormed
      have makes :
          Lexeme.MakesAll [.literal (Number.plainText value).toList]
            [.number (String.ofList (Number.plainText value).toList) value 0] :=
        .cons (.literal 0 read) .nil
      have derivation :=
        Derives.number (String.ofList (Number.plainText value).toList) value 0
      rw [lexemes]
      split
      · exact ⟨_, Lexeme.makesAll_enclosed makes, derivation.enclosed⟩
      · exact ⟨_, makes, derivation⟩
  | var name =>
      have named : (Token.word name 0).category = .identifier := by
        rw [Token.category, wellFormed.2.2]
      have makes := Lexeme.Makes.word name.toList 0
      rw [String.ofList_toList] at makes
      exact ⟨[.word name 0], .cons makes .nil, .name named⟩
  | binary operator left right leftHypothesis rightHypothesis =>
      obtain ⟨before, leftMakes, leftDerivation⟩ := leftHypothesis wellFormed.1
      obtain ⟨after, rightMakes, rightDerivation⟩ :=
        rightHypothesis wellFormed.2
      have makes :
          Lexeme.MakesAll
            (left.lexemes ++ .symbol (.operator operator) :: right.lexemes)
            (before ++ .symbol (.operator operator) 0 :: after) :=
        List.rel_append leftMakes (.cons (.symbol _ 0) rightMakes)
      have signed :
          (Token.symbol (.operator operator) 0).category =
            .operator operator :=
        rfl
      have derivation :=
        Derives.binary signed
          (leftDerivation.loosen (Phrase.rank_le_rank_primary _))
          (rightDerivation.loosen (Phrase.rank_le_rank_primary _))
      exact ⟨_, Lexeme.makesAll_enclosed makes, derivation.enclosed⟩
  | call function argument inductionHypothesis =>
      obtain ⟨inner, makes, derivation⟩ := inductionHypothesis wellFormed
      have nameMakes := Lexeme.Makes.word function.name.toList 0
      rw [String.ofList_toList] at nameMakes
      exact ⟨_, .cons nameMakes (Lexeme.makesAll_enclosed makes),
        .call
          (Function.category_word_of_mem_spellings function.name_mem_spellings)
          rfl (derivation.loosen (Nat.zero_le _)) rfl⟩

/-- The text of a well-formed tree has that tree as its analysis. -/
theorem analyze_toText {tree : Tree} (wellFormed : tree.WellFormed) :
    ∃ tokens,
      analyze tree.toText = .ok ⟨tokens, tree, tree.variableNames⟩ := by
  obtain ⟨tokens, makes, derivation⟩ := exists_makesAll_derives wellFormed
  have read : Tree.ofTokens tokens = .ok tree :=
    ofTokens_eq_ok_iff_derives.mpr (derivation.loosen (Nat.zero_le _))
  obtain ⟨scanned, -, -, analyzed⟩ :=
    analyze_of_cut (flatMap_text_lexemes wellFormed)
      (valid_lexemes wellFormed) makes read
  exact ⟨scanned, analyzed⟩

-- The name of a function is no variable, and its text alone is no formula.
example :
    ¬ (var "sen").WellFormed ∧ (analyze (var "sen").toText).toOption = none := by
  decide +kernel

end Tree

/-! ## The trees of sources -/

/-- A number is finite, and a word has letters only. -/
def Token.WellFormed : Token → Prop
  | .number _ value _ => value.isFinite = true
  | .word text _ =>
      text ≠ "" ∧ ∀ character ∈ text.toList, Text.isLetter character = true
  | .symbol _ _ => True

theorem Token.WellFormed.relocate {token : Token}
    (wellFormed : token.WellFormed) (place : Nat → Nat) :
    (token.relocate place).WellFormed := by
  cases token with
  | number text value position => exact wellFormed
  | word text position => exact wellFormed
  | symbol shape position => trivial

theorem Lexeme.Fits.wellFormed {afterOperand : Bool} {following : List Char}
    {lexeme : Lexeme} {place : Nat} {token : Token}
    (fits : lexeme.Fits afterOperand following)
    (made : lexeme.token? place = some token) : token.WellFormed := by
  cases lexeme with
  | literal text =>
      obtain ⟨value, read, rfl⟩ := Option.map_eq_some_iff.mp made
      exact Literal.isFinite_of_value? read
  | word text =>
      obtain rfl := Option.some.inj made
      obtain ⟨nonempty, letters, -⟩ := fits
      refine ⟨?_, ?_⟩
      · simpa using nonempty
      · rwa [String.toList_ofList]
  | symbol shape =>
      obtain rfl := Option.some.inj made
      trivial

theorem Scans.wellFormed {previous : Option Token} {place : Nat}
    {text : List Char} {tokens : List Token}
    (scans : Scans previous place text tokens) :
    ∀ token ∈ tokens, token.WellFormed := by
  induction scans with
  | done previous place => simp
  | step fits made scans inductionHypothesis =>
      intro token member
      rcases List.mem_cons.mp member with rfl | inRest
      · exact fits.wellFormed made
      · exact inductionHypothesis token inRest

theorem wellFormed_of_scan {source : String} {tokens : List Token}
    (scanned : scan source = .ok tokens) :
    ∀ token ∈ tokens, token.WellFormed := by
  obtain ⟨ranked, scans, rfl⟩ := scan_eq_ok_iff.mp scanned
  intro token member
  obtain ⟨found, inRanked, rfl⟩ := List.mem_map.mp member
  exact (scans.wellFormed found inRanked).relocate _

/-- A name in a formula is a word that names no function. -/
theorem Token.WellFormed.var_of_category {token : Token}
    (wellFormed : token.WellFormed)
    (named : token.category = .identifier) :
    (Tree.var token.lexeme).WellFormed := by
  cases token with
  | number text value position => simp [Token.category] at named
  | word text position =>
      refine ⟨wellFormed.1, wellFormed.2, ?_⟩
      rw [Token.category] at named
      split at named
      · contradiction
      · assumption
  | symbol shape position =>
      cases shape <;> simp [Token.category] at named

theorem Derives.wellFormed {phrase : Phrase} {tokens : List Token}
    {tree : Tree} (derivation : Derives phrase tokens tree)
    (wellFormed : ∀ token ∈ tokens, token.WellFormed) : tree.WellFormed := by
  induction derivation using Derives.inductionOnRank with
  | binary signed leftDerivation rightDerivation leftHypothesis
      rightHypothesis =>
      refine ⟨leftHypothesis ?_, rightHypothesis ?_⟩
      · intro token member
        exact wellFormed token (by simp [member])
      · intro token member
        exact wellFormed token (by simp [member])
  | loosen ranked derivation inductionHypothesis =>
      exact inductionHypothesis wellFormed
  | call named opened derivation closed inductionHypothesis =>
      apply inductionHypothesis
      intro token member
      exact wellFormed token (by simp [member])
  | group opened derivation closed inductionHypothesis =>
      apply inductionHypothesis
      intro token member
      exact wellFormed token (by simp [member])
  | number text value position =>
      exact wellFormed (.number text value position) (by simp)
  | @name token named =>
      exact (wellFormed token (by simp)).var_of_category named

theorem wellFormed_of_analyze {source : String} {analysis : Analysis}
    (analyzed : analyze source = .ok analysis) : analysis.tree.WellFormed := by
  obtain ⟨scanned, read, -⟩ := analyze_eq_ok_iff.mp analyzed
  have derivation := ofTokens_eq_ok_iff_derives.mp read
  exact derivation.wellFormed (wellFormed_of_scan scanned)

/-! ## Text and analysis -/

/-- Writing a tree and analyzing its text gives the tree back, each constant with
all its bits: this holds of every well-formed tree, and the trees of sources are
all well formed.  So a source and the text of its tree have the same value under
all bindings, or fail in the same way. -/
theorem analyze_inverts_toText :
    (∀ tree : Tree, tree.WellFormed →
      ∃ analysis,
        analyze tree.toText = .ok analysis ∧
        analysis.tree = tree ∧
        analysis.variableNames = tree.variableNames) ∧
    (∀ (source : String) (analysis : Analysis),
      analyze source = .ok analysis → analysis.tree.WellFormed) ∧
    (∀ (source : String) (analysis : Analysis) (bindings : Bindings),
      analyze source = .ok analysis →
      evaluate analysis.tree.toText bindings = evaluate source bindings) := by
  refine ⟨?_, ?_, ?_⟩
  · intro tree wellFormed
    obtain ⟨tokens, analyzed⟩ := Tree.analyze_toText wellFormed
    exact ⟨_, analyzed, rfl, rfl⟩
  · intro source analysis analyzed
    exact wellFormed_of_analyze analyzed
  · intro source analysis bindings analyzed
    have wellFormed := wellFormed_of_analyze analyzed
    obtain ⟨tokens, again⟩ := Tree.analyze_toText wellFormed
    simp only [evaluate, analyzed, again]

/-- A signed base and a negative zero, each in its parentheses. -/
theorem analyze_inverts_toText_of_signs :
    ∃ analysis,
      analyze "-2^x - -0" = .ok analysis ∧
      analysis.tree.toText = "(((-2) ^ x) - (-0))" ∧
      analysis.tree.WellFormed ∧
      (∃ again,
        analyze analysis.tree.toText = .ok again ∧
        again.tree = analysis.tree ∧
        again.variableNames = analysis.tree.variableNames) ∧
      ∀ bindings,
        evaluate analysis.tree.toText bindings =
          evaluate "-2^x - -0" bindings := by
  have analyzed :
      analyze "-2^x - -0" =
        .ok ⟨[.number "-2" (Number.ofLiteral ['-', '2']) 0,
            .symbol (.operator .pow) 2, .word "x" 3,
            .symbol (.operator .sub) 5,
            .number "-0" (Number.ofCode true 0) 7],
          .binary .sub
            (.binary .pow (.const (Number.ofLiteral ['-', '2'])) (.var "x"))
            (.const (Number.ofCode true 0)),
          ["x"]⟩ := by
    decide +kernel
  obtain ⟨roundTrip, wellFormed, sameValue⟩ := analyze_inverts_toText
  exact ⟨_, analyzed, by decide +kernel, wellFormed _ _ analyzed,
    roundTrip _ (wellFormed _ _ analyzed),
    fun bindings => sameValue _ _ bindings analyzed⟩

end Formula
