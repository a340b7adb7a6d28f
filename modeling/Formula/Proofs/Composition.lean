import Formula.Proofs.RoundTrip

/-!
# Sources inside larger sources

A source with a tree can be put into parentheses, joined to another one by an
operator, or made the argument of a function, and the tree of the result is the
one that the parts suggest.  The parts may have any tokens at their ends.

`Writes` is the grammar at the level of characters: a text is a phrase if it can
be cut into valid lexemes whose tokens are that phrase.  Phrases of this kind
compose freely, because a cut of the whole is a cut of each part.  The scanner,
which looks at the token before and at the character behind, enters only in
`hasTree_iff_writes`: a source has a tree exactly if its visible text is an
expression.
-/

namespace Formula

/-- The source has an analysis with the given tree. -/
def HasTree (source : String) (tree : Tree) : Prop :=
  ∃ analysis, analyze source = .ok analysis ∧ analysis.tree = tree

/-- `Writes phrase text tree` means that the text can be cut into valid lexemes
whose tokens are a phrase of the given kind with the given tree. -/
def Writes (phrase : Phrase) (text : List Char) (tree : Tree) : Prop :=
  ∃ cut tokens,
    cut.flatMap Lexeme.text = text ∧
    (∀ lexeme ∈ cut, lexeme.Valid) ∧
    Lexeme.MakesAll cut tokens ∧
    Derives phrase tokens tree

/-! ## The cut that the scanner makes -/

namespace Lexeme

theorem makes_of_token? {lexeme : Lexeme} {place : Nat} {token : Token}
    (made : lexeme.token? place = some token) : lexeme.Makes token := by
  cases lexeme with
  | literal text =>
      obtain ⟨value, read, rfl⟩ := Option.map_eq_some_iff.mp made
      exact .literal place read
  | word text =>
      obtain rfl := Option.some.inj made
      exact .word text place
  | symbol shape =>
      obtain rfl := Option.some.inj made
      exact .symbol shape place

theorem head?_ne_plus_of_isOutline {text : List Char}
    (outline : IsOutline text) : text.head? ≠ some '+' := by
  have starts : startsLiteral (text ++ []) = true :=
    startsLiteral_of_isOutline outline
  intro plus
  rw [List.append_nil, startsLiteral, plus] at starts
  contradiction

/-- A lexeme that the scanner chooses and makes a token of is valid. -/
theorem Fits.valid {afterOperand : Bool} {following : List Char}
    {lexeme : Lexeme} {place : Nat} {token : Token}
    (fits : lexeme.Fits afterOperand following)
    (made : lexeme.token? place = some token) : lexeme.Valid := by
  cases lexeme with
  | literal text =>
      obtain ⟨sign, run, rfl, signed, longest⟩ := fits
      obtain ⟨value, read, -⟩ := Option.map_eq_some_iff.mp made
      refine ⟨?_, by rw [read]; rfl⟩
      rcases signed with unsigned | ⟨minus, -⟩
      · rw [unsigned]
        exact head?_ne_plus_of_isOutline longest.2.1
      · rw [minus]
        simp
  | word text =>
      obtain ⟨nonempty, letters, -⟩ := fits
      exact ⟨nonempty, letters⟩
  | symbol shape => trivial

end Lexeme

theorem Scans.exists_cut {previous : Option Token} {place : Nat}
    {text : List Char} {tokens : List Token}
    (scans : Scans previous place text tokens) :
    ∃ cut,
      cut.flatMap Lexeme.text = text ∧
      (∀ lexeme ∈ cut, lexeme.Valid) ∧
      Lexeme.MakesAll cut tokens := by
  induction scans with
  | done previous place => exact ⟨[], rfl, by simp, .nil⟩
  | @step previous place lexeme following token tokens fits made scans
      inductionHypothesis =>
      obtain ⟨cut, covers, valid, makes⟩ := inductionHypothesis
      refine ⟨lexeme :: cut, ?_, ?_, .cons (Lexeme.makes_of_token? made) makes⟩
      · rw [List.flatMap_cons, covers]
      · intro other member
        by_cases first : other = lexeme
        · rw [first]
          exact fits.valid made
        · exact valid other (by simpa [first] using member)

/-- A source has a tree exactly if its visible text is an expression with that
tree. -/
theorem hasTree_iff_writes {source : String} {tree : Tree} :
    HasTree source tree ↔
      Writes .expression (Text.visible source.toList) tree := by
  constructor
  · rintro ⟨analysis, analyzed, rfl⟩
    obtain ⟨scanned, read, -⟩ := analyze_eq_ok_iff.mp analyzed
    obtain ⟨ranked, scans, relocated⟩ := scan_eq_ok_iff.mp scanned
    obtain ⟨cut, covers, valid, makes⟩ := scans.exists_cut
    refine ⟨cut, analysis.tokens, covers, valid, ?_,
      ofTokens_eq_ok_iff_derives.mp read⟩
    rw [relocated]
    exact makes.relocate _
  · rintro ⟨cut, tokens, covers, valid, makes, derivation⟩
    have read : Tree.ofTokens tokens = .ok tree :=
      ofTokens_eq_ok_iff_derives.mpr derivation
    obtain ⟨scanned, -, -, analyzed⟩ :=
      analyze_of_cut covers valid makes read
    exact ⟨_, analyzed, rfl⟩

/-! ## Phrases of characters -/

namespace Writes

theorem loosen {looser tighter : Phrase} {text : List Char} {tree : Tree}
    (ranked : looser.rank ≤ tighter.rank)
    (writes : Writes tighter text tree) : Writes looser text tree := by
  obtain ⟨cut, tokens, covers, valid, makes, derivation⟩ := writes
  exact ⟨cut, tokens, covers, valid, makes, derivation.loosen ranked⟩

theorem enclosed {phrase : Phrase} {text : List Char} {tree : Tree}
    (writes : Writes phrase text tree) :
    Writes .primary ('(' :: (text ++ [')'])) tree := by
  obtain ⟨cut, tokens, covers, valid, makes, derivation⟩ := writes
  refine ⟨Lexeme.enclosed cut, _, ?_, Lexeme.valid_enclosed valid,
    Lexeme.makesAll_enclosed makes, derivation.enclosed⟩
  rw [Lexeme.flatMap_text_enclosed, covers]

theorem binary {operator : Operator} {before after : List Char}
    {left right : Tree}
    (leftWrites : Writes (Phrase.leftOf operator) before left)
    (rightWrites : Writes (Phrase.rightOf operator) after right) :
    Writes (Phrase.around operator) (before ++ operator.symbol :: after)
      (.binary operator left right) := by
  obtain ⟨leftCut, leftTokens, leftCovers, leftValid, leftMakes,
    leftDerivation⟩ := leftWrites
  obtain ⟨rightCut, rightTokens, rightCovers, rightValid, rightMakes,
    rightDerivation⟩ := rightWrites
  have signed :
      (Token.symbol (.operator operator) 0).category = .operator operator :=
    rfl
  refine ⟨leftCut ++ .symbol (.operator operator) :: rightCut, _, ?_, ?_,
    List.rel_append leftMakes (.cons (.symbol _ 0) rightMakes),
    .binary signed leftDerivation rightDerivation⟩
  · rw [List.flatMap_append, List.flatMap_cons, leftCovers, rightCovers]
    rfl
  · intro lexeme member
    rw [List.mem_append, List.mem_cons] at member
    rcases member with inLeft | sign | inRight
    · exact leftValid lexeme inLeft
    · rw [sign]
      trivial
    · exact rightValid lexeme inRight

theorem call {function : Function} {word : List Char} {text : List Char}
    {argument : Tree}
    (valid : (Lexeme.word word).Valid)
    (named : (Token.word (String.ofList word) 0).category =
      .function function)
    (writes : Writes .expression text argument) :
    Writes .primary (word ++ '(' :: (text ++ [')']))
      (.call function argument) := by
  obtain ⟨cut, tokens, covers, innerValid, makes, derivation⟩ := writes
  refine ⟨.word word :: Lexeme.enclosed cut, _, ?_, ?_,
    .cons (.word word 0) (Lexeme.makesAll_enclosed makes),
    .call named rfl derivation rfl⟩
  · rw [List.flatMap_cons, Lexeme.flatMap_text_enclosed, covers]
    rfl
  · intro lexeme member
    rcases List.mem_cons.mp member with first | inside
    · rw [first]
      exact valid
    · exact Lexeme.valid_enclosed innerValid lexeme inside

end Writes

/-! ## Composed sources -/

/-- The source in parentheses. -/
def enclose (source : String) : String :=
  "(" ++ source ++ ")"

theorem visible_enclose (source : String) :
    Text.visible (enclose source).toList =
      '(' :: (Text.visible source.toList ++ [')']) := by
  have characters :
      (enclose source).toList = '(' :: (source.toList ++ [')']) := by
    simp [enclose]
  rw [characters, Text.visible_enclosed]

namespace HasTree

theorem writes_enclose {source : String} {tree : Tree}
    (hasTree : HasTree source tree) :
    Writes .primary (Text.visible (enclose source).toList) tree := by
  rw [visible_enclose]
  exact (hasTree_iff_writes.mp hasTree).enclosed

theorem enclosed {source : String} {tree : Tree}
    (hasTree : HasTree source tree) : HasTree (enclose source) tree :=
  hasTree_iff_writes.mpr (hasTree.writes_enclose.loosen (Nat.zero_le _))

theorem binary {first second : String} {left right : Tree}
    (firstTree : HasTree first left) (secondTree : HasTree second right)
    (operator : Operator) :
    HasTree
      (enclose first ++ String.singleton operator.symbol ++ enclose second)
      (.binary operator left right) := by
  have sign : Text.isBlank operator.symbol = false :=
    Symbol.isBlank_char (.operator operator)
  have characters :
      (enclose first ++ String.singleton operator.symbol ++
        enclose second).toList =
        (enclose first).toList ++
          operator.symbol :: (enclose second).toList := by
    simp
  -- Both operands are primaries, which every operator takes on either side.
  have whole :=
    Writes.binary
      (firstTree.writes_enclose.loosen
        (Phrase.rank_le_rank_primary (Phrase.leftOf operator)))
      (secondTree.writes_enclose.loosen
        (Phrase.rank_le_rank_primary (Phrase.rightOf operator)))
  apply hasTree_iff_writes.mpr
  rw [characters, Text.visible_append, Text.visible_cons_of_visible sign]
  exact whole.loosen (Nat.zero_le _)

theorem call {source : String} {argument : Tree}
    (hasTree : HasTree source argument) {function : Function}
    {spelling : String} (member : spelling ∈ function.spellings) :
    HasTree (spelling ++ enclose source) (.call function argument) := by
  have valid := Function.valid_of_mem_spellings member
  have whole :=
    Writes.call valid
      (by simpa using Function.category_word_of_mem_spellings member)
      (hasTree_iff_writes.mp hasTree)
  apply hasTree_iff_writes.mpr
  rw [String.toList_append, Text.visible_append,
    Text.visible_eq_self_of_isLetter valid.2, visible_enclose]
  exact whole.loosen (Nat.zero_le _)

end HasTree

/-- Sources compose: in parentheses a source keeps its tree, two sources in
parentheses with an operator between them make the operation of their trees, and
a spelling of a function before the parentheses makes its call. -/
theorem sources_compose {first second : String} {left right : Tree}
    (firstTree : HasTree first left) (secondTree : HasTree second right) :
    HasTree ("(" ++ first ++ ")") left ∧
    (∀ operator : Operator,
      HasTree
        ("(" ++ first ++ ")" ++ String.singleton operator.symbol ++
          ("(" ++ second ++ ")"))
        (.binary operator left right)) ∧
    (∀ function : Function, ∀ spelling ∈ function.spellings,
      HasTree (spelling ++ ("(" ++ first ++ ")")) (.call function left)) := by
  refine ⟨firstTree.enclosed, ?_, ?_⟩
  · intro operator
    exact firstTree.binary secondTree operator
  · intro function spelling member
    exact firstTree.call member

/-- Parts that begin with a sign and end in a letter, and an exponent with a sign
in front of a blank. -/
theorem sources_compose_of_signs :
    let left : Tree :=
      .binary .pow (.const (Number.ofLiteral ['-', '2'])) (.var "x")
    let right : Tree :=
      .binary .sub (.const (Number.ofLiteral ['1', 'e', '-', '3'])) (.var "y")
    HasTree "-2^x" left ∧
    HasTree "1e-3 - y " right ∧
    HasTree "(-2^x)" left ∧
    HasTree "(-2^x)-(1e-3 - y )" (.binary .sub left right) ∧
    HasTree "SEN(-2^x)" (.call .sin left) := by
  intro left right
  have firstTree : HasTree "-2^x" left :=
    ⟨⟨[.number "-2" (Number.ofLiteral ['-', '2']) 0,
        .symbol (.operator .pow) 2, .word "x" 3], left, ["x"]⟩,
      by decide +kernel, rfl⟩
  have secondTree : HasTree "1e-3 - y " right :=
    ⟨⟨[.number "1e-3" (Number.ofLiteral ['1', 'e', '-', '3']) 0,
        .symbol (.operator .sub) 5, .word "y" 7], right, ["y"]⟩,
      by decide +kernel, rfl⟩
  obtain ⟨enclosed, joined, called⟩ := sources_compose firstTree secondTree
  exact ⟨firstTree, secondTree, enclosed, joined .sub,
    called .sin "SEN" (by decide)⟩

end Formula
