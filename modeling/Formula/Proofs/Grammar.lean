import Formula.Reader

/-!
# The grammar of formulas

The grammar has four kinds of phrases:

* an expression is a term, or an expression, `+` or `-`, and a term;
* a term is a factor, or a term, `*` or `/`, and a factor;
* a factor is a primary, or a primary, `^` and a factor;
* a primary is a number, a name, an expression in parentheses, or a function
  with such parentheses behind it.

The rules for sums and products are left-recursive, so that these group to the
left, and the rule for powers is right-recursive.  Parentheses add no node.

The three rules with an operator are one rule `Derives.binary` once the phrases
on the two sides of an operator have names.  Everything about precedence is then
a comparison of ranks, and the reader is compared with this one rule.
-/

namespace Formula

/-- The kinds of phrases, the loosest first. -/
inductive Phrase where
  | expression
  | term
  | factor
  | primary
  deriving DecidableEq, Repr

/-- `Derives phrase tokens tree` means that the tokens, all of them, are a phrase
of the given kind with the given tree. -/
inductive Derives : Phrase → List Token → Tree → Prop
  | sum {operator : Operator} {sign : Token} {before after : List Token}
      {left right : Tree} :
      operator.level = .sum →
      sign.category = .operator operator →
      Derives .expression before left →
      Derives .term after right →
      Derives .expression (before ++ sign :: after)
        (.binary operator left right)
  | ofTerm {tokens : List Token} {tree : Tree} :
      Derives .term tokens tree →
      Derives .expression tokens tree
  | product {operator : Operator} {sign : Token} {before after : List Token}
      {left right : Tree} :
      operator.level = .product →
      sign.category = .operator operator →
      Derives .term before left →
      Derives .factor after right →
      Derives .term (before ++ sign :: after) (.binary operator left right)
  | ofFactor {tokens : List Token} {tree : Tree} :
      Derives .factor tokens tree →
      Derives .term tokens tree
  | power {sign : Token} {before after : List Token} {left right : Tree} :
      sign.category = .operator .pow →
      Derives .primary before left →
      Derives .factor after right →
      Derives .factor (before ++ sign :: after) (.binary .pow left right)
  | ofPrimary {tokens : List Token} {tree : Tree} :
      Derives .primary tokens tree →
      Derives .factor tokens tree
  | call {function : Function} {name opening closing : Token}
      {inner : List Token} {argument : Tree} :
      name.category = .function function →
      opening.category = .leftParen →
      Derives .expression inner argument →
      closing.category = .rightParen →
      Derives .primary (name :: opening :: (inner ++ [closing]))
        (.call function argument)
  | group {opening closing : Token} {inner : List Token} {tree : Tree} :
      opening.category = .leftParen →
      Derives .expression inner tree →
      closing.category = .rightParen →
      Derives .primary (opening :: (inner ++ [closing])) tree
  | number (text : String) (value : Float) (position : Nat) :
      Derives .primary [.number text value position] (.const value)
  | name {token : Token} :
      token.category = .identifier →
      Derives .primary [token] (.var token.lexeme)

/-! ## Ranks of phrases -/

namespace Phrase

/-- Tighter phrases have higher ranks. -/
def rank : Phrase → Nat
  | .expression => 0
  | .term => 1
  | .factor => 2
  | .primary => 3

/-- The phrase that may hold the operators of a level and tighter ones. -/
def ofLevel : Level → Phrase
  | .sum => .expression
  | .product => .term
  | .power => .factor

/-- The phrase that an operator makes. -/
def around (operator : Operator) : Phrase :=
  ofLevel operator.level

/-- The phrase on the left of an operator. -/
def leftOf (operator : Operator) : Phrase :=
  match operator.level with
  | .sum => .expression
  | .product => .term
  | .power => .primary

/-- The phrase on the right of an operator. -/
def rightOf (operator : Operator) : Phrase :=
  match operator.level with
  | .sum => .term
  | .product => .factor
  | .power => .factor

theorem rank_le_rank_primary (phrase : Phrase) :
    phrase.rank ≤ Phrase.primary.rank := by
  cases phrase <;> decide

theorem rank_around_le_leftOf (operator : Operator) :
    (around operator).rank ≤ (leftOf operator).rank := by
  cases operator <;> decide

theorem rank_around_le_rightOf (operator : Operator) :
    (around operator).rank ≤ (rightOf operator).rank := by
  cases operator <;> decide

/-- A level admits the operators whose phrases are not looser than its own. -/
theorem admits_iff_rank_le (level : Level) (operator : Operator) :
    level.admits operator = true ↔
      (ofLevel level).rank ≤ (around operator).rank := by
  cases level <;> cases operator <;> decide

/-- An operator completes exactly those pending operations that may stand in
the phrase on its left. -/
theorem completes_iff_rank_le (next pending : Operator) :
    next.completes pending = true ↔
      (leftOf next).rank ≤ (around pending).rank := by
  cases next <;> cases pending <;> decide

/-- An operator that leaves a pending operation waiting may stand on the right
of that operation. -/
theorem rank_rightOf_le_of_not_completes {next pending : Operator}
    (waits : next.completes pending = false) :
    (rightOf pending).rank ≤ (around next).rank := by
  revert waits
  cases next <;> cases pending <;> decide

/-- An operator in the phrase on the right of a pending operation leaves that
operation waiting. -/
theorem not_completes_of_rank_rightOf_le {next pending : Operator}
    (inside : (rightOf pending).rank ≤ (around next).rank) :
    next.completes pending = false := by
  revert inside
  cases next <;> cases pending <;> decide

end Phrase

/-! ## Derivations by rank -/

namespace Derives

/-- A phrase is also a phrase of every looser kind. -/
theorem loosen {looser tighter : Phrase} {tokens : List Token} {tree : Tree}
    (ranked : looser.rank ≤ tighter.rank)
    (derivation : Derives tighter tokens tree) :
    Derives looser tokens tree := by
  cases looser with
  | expression =>
      cases tighter with
      | expression => exact derivation
      | term => exact .ofTerm derivation
      | factor => exact .ofTerm (.ofFactor derivation)
      | primary => exact .ofTerm (.ofFactor (.ofPrimary derivation))
  | term =>
      cases tighter with
      | expression => contradiction
      | term => exact derivation
      | factor => exact .ofFactor derivation
      | primary => exact .ofFactor (.ofPrimary derivation)
  | factor =>
      cases tighter with
      | expression => contradiction
      | term => contradiction
      | factor => exact derivation
      | primary => exact .ofPrimary derivation
  | primary =>
      cases tighter with
      | expression => contradiction
      | term => contradiction
      | factor => contradiction
      | primary => exact derivation

/-- The rules for sums, products and powers in one. -/
theorem binary {operator : Operator} {sign : Token}
    {before after : List Token} {left right : Tree}
    (signed : sign.category = .operator operator)
    (leftDerivation : Derives (Phrase.leftOf operator) before left)
    (rightDerivation : Derives (Phrase.rightOf operator) after right) :
    Derives (Phrase.around operator) (before ++ sign :: after)
      (.binary operator left right) := by
  cases operator with
  | add => exact .sum rfl signed leftDerivation rightDerivation
  | sub => exact .sum rfl signed leftDerivation rightDerivation
  | mul => exact .product rfl signed leftDerivation rightDerivation
  | div => exact .product rfl signed leftDerivation rightDerivation
  | pow => exact .power signed leftDerivation rightDerivation

/-- Induction over derivations with one case for all operators and one for all
the rules that only change the kind of the phrase. -/
@[elab_as_elim]
theorem inductionOnRank
    {motive : (phrase : Phrase) → (tokens : List Token) → (tree : Tree) →
      Derives phrase tokens tree → Prop}
    (binary : ∀ {operator : Operator} {sign : Token}
      {before after : List Token} {left right : Tree}
      (signed : sign.category = .operator operator)
      (leftDerivation : Derives (Phrase.leftOf operator) before left)
      (rightDerivation : Derives (Phrase.rightOf operator) after right),
      motive _ before left leftDerivation →
      motive _ after right rightDerivation →
      motive _ (before ++ sign :: after) (.binary operator left right)
        (.binary signed leftDerivation rightDerivation))
    (loosen : ∀ {looser tighter : Phrase} {tokens : List Token} {tree : Tree}
      (ranked : looser.rank ≤ tighter.rank)
      (derivation : Derives tighter tokens tree),
      motive tighter tokens tree derivation →
      motive looser tokens tree (derivation.loosen ranked))
    (call : ∀ {function : Function} {name opening closing : Token}
      {inner : List Token} {argument : Tree}
      (named : name.category = .function function)
      (opened : opening.category = .leftParen)
      (derivation : Derives .expression inner argument)
      (closed : closing.category = .rightParen),
      motive _ inner argument derivation →
      motive _ (name :: opening :: (inner ++ [closing]))
        (.call function argument) (.call named opened derivation closed))
    (group : ∀ {opening closing : Token} {inner : List Token} {tree : Tree}
      (opened : opening.category = .leftParen)
      (derivation : Derives .expression inner tree)
      (closed : closing.category = .rightParen),
      motive _ inner tree derivation →
      motive _ (opening :: (inner ++ [closing])) tree
        (.group opened derivation closed))
    (number : ∀ (text : String) (value : Float) (position : Nat),
      motive _ [.number text value position] (.const value)
        (.number text value position))
    (name : ∀ {token : Token} (named : token.category = .identifier),
      motive _ [token] (.var token.lexeme) (.name named))
    {phrase : Phrase} {tokens : List Token} {tree : Tree}
    (derivation : Derives phrase tokens tree) :
    motive phrase tokens tree derivation := by
  induction derivation with
  | @sum operator _ _ _ _ _ leveled signed leftDerivation rightDerivation
      leftCase rightCase =>
      cases operator with
      | add => exact binary signed leftDerivation rightDerivation leftCase rightCase
      | sub => exact binary signed leftDerivation rightDerivation leftCase rightCase
      | mul => contradiction
      | div => contradiction
      | pow => contradiction
  | ofTerm derivation termCase => exact loosen (by decide) derivation termCase
  | @product operator _ _ _ _ _ leveled signed leftDerivation rightDerivation
      leftCase rightCase =>
      cases operator with
      | add => contradiction
      | sub => contradiction
      | mul => exact binary signed leftDerivation rightDerivation leftCase rightCase
      | div => exact binary signed leftDerivation rightDerivation leftCase rightCase
      | pow => contradiction
  | ofFactor derivation factorCase =>
      exact loosen (by decide) derivation factorCase
  | power signed leftDerivation rightDerivation leftCase rightCase =>
      exact binary signed leftDerivation rightDerivation leftCase rightCase
  | ofPrimary derivation primaryCase =>
      exact loosen (by decide) derivation primaryCase
  | call named opened derivation closed innerCase =>
      exact call named opened derivation closed innerCase
  | group opened derivation closed innerCase =>
      exact group opened derivation closed innerCase
  | number text value position => exact number text value position
  | name named => exact name named

end Derives

end Formula
