import Formula.Evaluation
import Formula.Proofs.ReaderGrammar

/-!
# Substitution

A variable of a formula stands for any formula in parentheses.  Replacing the
tokens of the variable by the tokens of the other formula, with parentheses
around them, has two effects that are proved here:

* the tree is the old one with the other tree in the place of the variable,
  wherever the variable stands and however often;
* its value is that of the old tree with the variable bound to the value of the
  other one.  If there is no value, the two fail in the same way.

The first is an induction over derivations: the parentheses make the new tokens
a primary, and a variable is a primary as well, so no rule above it changes.
-/

namespace Formula

/-- The tree with another tree in the place of each variable of the given
name. -/
def Tree.substitute (tree : Tree) (name : String) (inserted : Tree) : Tree :=
  match tree with
  | .const value => .const value
  | .var other => if other = name then inserted else .var other
  | .binary operator left right =>
      .binary operator (left.substitute name inserted)
        (right.substitute name inserted)
  | .call function argument =>
      .call function (argument.substitute name inserted)

/-! ## Substitution in tokens -/

section Tokens

/- The name that is replaced, the tokens that replace it, and the positions that
the parentheses around them get, which may be any. -/
variable (name : String) (inserted : List Token) (opening closing : Token → Nat)

/-- What stands in the place of a token: the inserted tokens in parentheses, if
the token is a variable of the given name, and else the token itself. -/
def Token.substitute (token : Token) : List Token :=
  if token.category = .identifier ∧ token.lexeme = name then
    .symbol .leftParen (opening token) ::
      (inserted ++ [.symbol .rightParen (closing token)])
  else
    [token]

/-- The tokens with each variable of the given name replaced. -/
def substituteTokens (tokens : List Token) : List Token :=
  tokens.flatMap (Token.substitute name inserted opening closing)

variable {name inserted opening closing}

theorem substituteTokens_append (first second : List Token) :
    substituteTokens name inserted opening closing (first ++ second) =
      substituteTokens name inserted opening closing first ++
        substituteTokens name inserted opening closing second :=
  List.flatMap_append

theorem substituteTokens_singleton (token : Token) :
    substituteTokens name inserted opening closing [token] =
      token.substitute name inserted opening closing :=
  List.flatMap_singleton _ token

theorem Token.substitute_of_category_ne {token : Token}
    (noVariable : token.category ≠ .identifier) :
    token.substitute name inserted opening closing = [token] := by
  unfold Token.substitute
  rw [if_neg]
  intro replaced
  exact noVariable replaced.1

theorem substituteTokens_cons_of_category_ne {token : Token}
    (noVariable : token.category ≠ .identifier) (tokens : List Token) :
    substituteTokens name inserted opening closing (token :: tokens) =
      token :: substituteTokens name inserted opening closing tokens := by
  rw [substituteTokens, List.flatMap_cons,
    Token.substitute_of_category_ne noVariable]
  rfl

/-- The tokens of a variable become a primary with the tree that replaces the
variable. -/
theorem derives_substitute_name {insertedTree : Tree} {token : Token}
    (insertedDerivation : Derives .expression inserted insertedTree)
    (named : token.category = .identifier) :
    Derives .primary (token.substitute name inserted opening closing)
      ((Tree.var token.lexeme).substitute name insertedTree) := by
  by_cases same : token.lexeme = name
  · rw [Token.substitute, if_pos ⟨named, same⟩, Tree.substitute, if_pos same]
    exact .group rfl insertedDerivation rfl
  · have kept : ¬ (token.category = .identifier ∧ token.lexeme = name) :=
      fun replaced => same replaced.2
    rw [Token.substitute, if_neg kept, Tree.substitute, if_neg same]
    exact .name named

/-- A phrase stays a phrase of its kind, with the tree in which the variable is
replaced. -/
theorem Derives.substitute {phrase : Phrase} {tokens : List Token}
    {tree insertedTree : Tree} (derivation : Derives phrase tokens tree)
    (insertedDerivation : Derives .expression inserted insertedTree) :
    Derives phrase (substituteTokens name inserted opening closing tokens)
      (tree.substitute name insertedTree) := by
  -- Of the tokens only names change, so each rule applies as it did before.
  induction derivation using Derives.inductionOnRank with
  | @binary operator sign before after left right signed _ _ leftSubstituted
      rightSubstituted =>
      have noVariable : sign.category ≠ .identifier := by simp [signed]
      rw [substituteTokens_append,
        substituteTokens_cons_of_category_ne noVariable]
      exact .binary signed leftSubstituted rightSubstituted
  | loosen ranked _ substituted => exact substituted.loosen ranked
  | @call function word left right inner argument named opened _ closed
      substituted =>
      have noVariables :
          word.category ≠ .identifier ∧ left.category ≠ .identifier ∧
            right.category ≠ .identifier := by
        simp [named, opened, closed]
      rw [substituteTokens_cons_of_category_ne noVariables.1,
        substituteTokens_cons_of_category_ne noVariables.2.1,
        substituteTokens_append, substituteTokens_singleton,
        Token.substitute_of_category_ne noVariables.2.2]
      exact .call named opened substituted closed
  | @group left right inner tree opened _ closed substituted =>
      have noVariables :
          left.category ≠ .identifier ∧ right.category ≠ .identifier := by
        simp [opened, closed]
      rw [substituteTokens_cons_of_category_ne noVariables.1,
        substituteTokens_append, substituteTokens_singleton,
        Token.substitute_of_category_ne noVariables.2]
      exact .group opened substituted closed
  | number text value position =>
      have noVariable :
          (Token.number text value position).category ≠ .identifier := by
        simp [Token.category]
      rw [substituteTokens_singleton,
        Token.substitute_of_category_ne noVariable]
      exact .number text value position
  | name named =>
      rw [substituteTokens_singleton]
      exact derives_substitute_name insertedDerivation named

end Tokens

/-! ## Substitution and values -/

/-- Replacing a variable by a tree with a value has the effect of binding the
variable to that value. -/
theorem Tree.eval_substitute {inserted : Tree} {bindings : Bindings}
    {value : Float} (evaluated : inserted.eval bindings = .ok value)
    (name : String) (tree : Tree) :
    (tree.substitute name inserted).eval bindings =
      tree.eval (bindings.insert name value) := by
  unfold Tree.eval at evaluated ⊢
  induction tree with
  | const other => rfl
  | var other =>
      by_cases same : other = name
      · rw [Tree.substitute, if_pos same, evaluated]
        simp [Tree.evalWith, valueOf, same]
      · have different : name ≠ other := Ne.symm same
        rw [Tree.substitute, if_neg same]
        simp [Tree.evalWith, valueOf, different]
  | binary operator left right leftHypothesis rightHypothesis =>
      rw [Tree.substitute, Tree.evalWith, Tree.evalWith, leftHypothesis,
        rightHypothesis]
  | call function argument inductionHypothesis =>
      rw [Tree.substitute, Tree.evalWith, Tree.evalWith, inductionHypothesis]

/-- Substitution commutes with reading and with evaluation: the tokens in which a
name is replaced by a formula in parentheses make the tree in which the variable
is replaced, and where the formula has a value this tree is evaluated as the old
one is with the variable bound to that value. -/
theorem substitution_commutes {tokens inserted : List Token}
    {tree insertedTree : Tree}
    (read : Tree.ofTokens tokens = .ok tree)
    (insertedRead : Tree.ofTokens inserted = .ok insertedTree)
    (name : String) :
    (∀ opening closing : Token → Nat,
      Tree.ofTokens (substituteTokens name inserted opening closing tokens) =
        .ok (tree.substitute name insertedTree)) ∧
    (∀ (bindings : Bindings) (value : Float),
      insertedTree.eval bindings = .ok value →
      (tree.substitute name insertedTree).eval bindings =
        tree.eval (bindings.insert name value)) := by
  refine ⟨?_, ?_⟩
  · intro opening closing
    have derivation : Derives .expression tokens tree :=
      ofTokens_eq_ok_iff_derives.mp read
    have insertedDerivation : Derives .expression inserted insertedTree :=
      ofTokens_eq_ok_iff_derives.mp insertedRead
    exact ofTokens_eq_ok_iff_derives.mpr
      (derivation.substitute insertedDerivation)
  · intro bindings value evaluated
    exact Tree.eval_substitute evaluated name tree

/-- A sum in the place of the base of a power and of an argument, where it would
be cut apart without its parentheses.  The name `z` stays unbound. -/
theorem substitution_commutes_in_power :
    let tokens : List Token :=
      [.word "x" 0, .symbol (.operator .pow) 1, .number "2" 2 2,
        .symbol (.operator .sub) 3, .word "cos" 4, .symbol .leftParen 7,
        .word "x" 8, .symbol .rightParen 9, .symbol (.operator .mul) 10,
        .word "z" 11]
    let inserted : List Token :=
      [.word "y" 0, .symbol (.operator .add) 1, .number "1" 1 2]
    let tree : Tree :=
      .binary .sub (.binary .pow (.var "x") (.const 2))
        (.binary .mul (.call .cos (.var "x")) (.var "z"))
    let insertedTree : Tree := .binary .add (.var "y") (.const 1)
    let bindings : Bindings := Bindings.insert ∅ "y" 3
    Tree.ofTokens tokens = .ok tree ∧
    Tree.ofTokens inserted = .ok insertedTree ∧
    Tree.ofTokens
        (substituteTokens "x" inserted Token.position Token.position tokens) =
      .ok (tree.substitute "x" insertedTree) ∧
    insertedTree.eval bindings = .ok (3 + 1) ∧
    (tree.substitute "x" insertedTree).eval bindings =
      tree.eval (bindings.insert "x" (3 + 1)) := by
  intro tokens inserted tree insertedTree bindings
  have read : Tree.ofTokens tokens = .ok tree := by rfl
  have insertedRead : Tree.ofTokens inserted = .ok insertedTree := by rfl
  have evaluated : insertedTree.eval bindings = .ok (3 + 1) := by
    simp [insertedTree, bindings, Tree.eval, Tree.evalWith, valueOf,
      Operator.apply]
    rfl
  obtain ⟨substituted, sameValue⟩ :=
    substitution_commutes read insertedRead "x"
  exact ⟨read, insertedRead, substituted Token.position Token.position,
    evaluated, sameValue bindings (3 + 1) evaluated⟩

end Formula
