import Formula.Proofs.FirstOccurrences
import Formula.Proofs.ReaderGrammar

/-!
# Reading keeps everything in its order

A tree is written from left to right as a list of items: constants, names,
operators and functions.  The tokens of a formula say the same items in the same
order, with parentheses among them that say none.  So reading loses nothing, adds
nothing and moves nothing, however the operators group.

In particular the names of a tree come in the order of its tokens.  Hence the
variables of a formula are the names among its tokens, each where it occurs first.
-/

namespace Formula

/-- What a formula says, piece by piece. -/
inductive Item where
  | constant (value : Float)
  | name (text : String)
  | operator (operation : Operator)
  | function (named : Function)
  deriving DecidableEq

/-- The items of a tree from left to right: an operator between its operands, and
a function in front of its argument. -/
def Tree.items : Tree → List Item
  | .const value => [.constant value]
  | .var name => [.name name]
  | .binary operator left right =>
      left.items ++ .operator operator :: right.items
  | .call function argument => .function function :: argument.items

/-! ## What tokens say -/

/-- Whether a category is one of the two parentheses. -/
def Category.isParen : Category → Bool
  | .leftParen | .rightParen => true
  | _ => false

/-- What a token says.  A parenthesis says nothing. -/
def Token.item? (token : Token) : Option Item :=
  match token.category with
  | .number => token.value?.map .constant
  | .identifier => some (.name token.lexeme)
  | .operator operation => some (.operator operation)
  | .function named => some (.function named)
  | .leftParen | .rightParen => none

/-- The tokens without the parentheses. -/
def withoutParens (tokens : List Token) : List Token :=
  tokens.filter fun token => !token.category.isParen

/-- The names among the tokens, each as often as it occurs. -/
def identifiers (tokens : List Token) : List String :=
  (tokens.filter fun token => token.category = .identifier).map Token.lexeme

@[simp]
theorem withoutParens_nil : withoutParens [] = [] :=
  rfl

theorem withoutParens_append (first second : List Token) :
    withoutParens (first ++ second) =
      withoutParens first ++ withoutParens second :=
  List.filter_append ..

theorem withoutParens_cons (token : Token) (tokens : List Token) :
    withoutParens (token :: tokens) =
      if token.category.isParen then withoutParens tokens
      else token :: withoutParens tokens := by
  rw [withoutParens, List.filter_cons]
  cases token.category.isParen <;> rfl

theorem identifiers_append (first second : List Token) :
    identifiers (first ++ second) = identifiers first ++ identifiers second := by
  rw [identifiers, List.filter_append, List.map_append]
  rfl

theorem identifiers_cons (token : Token) (tokens : List Token) :
    identifiers (token :: tokens) =
      if token.category = .identifier then
        token.lexeme :: identifiers tokens
      else
        identifiers tokens := by
  by_cases named : token.category = .identifier
  · simp [identifiers, named]
  · simp [identifiers, named]

/-! ## Reading -/

/-- The tokens of a phrase say the items of its tree in their order. -/
theorem Derives.map_item? {phrase : Phrase} {tokens : List Token} {tree : Tree}
    (derivation : Derives phrase tokens tree) :
    (withoutParens tokens).map Token.item? = tree.items.map some := by
  -- Each rule puts its operands where it finds them and drops parentheses only.
  induction derivation using Derives.inductionOnRank with
  | binary signed _ _ leftItems rightItems =>
      rw [withoutParens_append, withoutParens_cons, signed]
      simp [Category.isParen, Token.item?, signed, leftItems, rightItems,
        Tree.items]
  | loosen ranked _ sameItems => exact sameItems
  | call named opened _ closed sameItems =>
      rw [withoutParens_cons, withoutParens_cons, withoutParens_append,
        withoutParens_cons, named, opened, closed]
      simp [Category.isParen, Token.item?, named, sameItems, Tree.items]
  | group opened _ closed sameItems =>
      rw [withoutParens_cons, withoutParens_append, withoutParens_cons, opened,
        closed]
      simp [Category.isParen, sameItems]
  | number text value position => rfl
  | name named =>
      simp [withoutParens, Category.isParen, Token.item?, named, Tree.items]

/-- The names of a tree are those of the tokens, in their order. -/
theorem Derives.names_eq_identifiers {phrase : Phrase} {tokens : List Token}
    {tree : Tree} (derivation : Derives phrase tokens tree) :
    tree.names = identifiers tokens := by
  induction derivation using Derives.inductionOnRank with
  | binary signed _ _ leftNames rightNames =>
      rw [Tree.names, leftNames, rightNames, identifiers_append,
        identifiers_cons, signed]
      rfl
  | loosen ranked _ sameNames => exact sameNames
  | call named opened _ closed sameNames =>
      rw [Tree.names, sameNames, identifiers_cons, identifiers_cons,
        identifiers_append, identifiers_cons, named, opened, closed]
      simp [identifiers]
  | group opened _ closed sameNames =>
      rw [sameNames, identifiers_cons, identifiers_append, identifiers_cons,
        opened, closed]
      simp [identifiers]
  | number text value position => rfl
  | name named =>
      rw [identifiers_cons, named]
      rfl

/-- Reading keeps everything and its order: the tokens without the parentheses
say the items of the tree from left to right, and the variables are the names
among the tokens, without the repetitions of a name that stands further left. -/
theorem reading_keeps_order {tokens : List Token} {tree : Tree}
    (read : Tree.ofTokens tokens = .ok tree) :
    (withoutParens tokens).map Token.item? = tree.items.map some ∧
    tree.variableNames = firstOccurrences (identifiers tokens) := by
  have derivation : Derives .expression tokens tree :=
    ofTokens_eq_ok_iff_derives.mp read
  refine ⟨derivation.map_item?, ?_⟩
  rw [tree.variableNames_eq_firstOccurrences, derivation.names_eq_identifiers]

/-- A sum that groups to the left, a power that groups to the right, a call, and
two parentheses around one name.  Both names occur again. -/
theorem reading_keeps_order_of_repeated :
    let tokens : List Token :=
      [.word "b" 0, .symbol (.operator .sub) 1, .word "SEN" 2,
        .symbol .leftParen 5, .word "a" 6, .symbol (.operator .pow) 7,
        .word "b" 8, .symbol (.operator .pow) 9, .number "2" 2 10,
        .symbol .rightParen 11, .symbol (.operator .sub) 12,
        .symbol .leftParen 13, .symbol .leftParen 14, .word "a" 15,
        .symbol .rightParen 16, .symbol .rightParen 17]
    let tree : Tree :=
      .binary .sub
        (.binary .sub (.var "b")
          (.call .sin
            (.binary .pow (.var "a") (.binary .pow (.var "b") (.const 2)))))
        (.var "a")
    Tree.ofTokens tokens = .ok tree ∧
    (withoutParens tokens).map Token.item? = tree.items.map some ∧
    tree.items =
      [.name "b", .operator .sub, .function .sin, .name "a", .operator .pow,
        .name "b", .operator .pow, .constant 2, .operator .sub, .name "a"] ∧
    tree.variableNames = firstOccurrences (identifiers tokens) ∧
    firstOccurrences (identifiers tokens) = ["b", "a"] := by
  intro tokens tree
  have read : Tree.ofTokens tokens = .ok tree := by rfl
  obtain ⟨sameItems, sameNames⟩ := reading_keeps_order read
  exact ⟨read, sameItems, rfl, sameNames, by rfl⟩

end Formula
