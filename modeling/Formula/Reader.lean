import Formula.Error
import Formula.Tree

/-!
# From tokens to trees

The reader takes one token after the other and keeps what is not finished:

* the *pending* operations of the innermost open parenthesis, each a left
  operand with its operator, the latest first;
* the *groups* around it, one for each open parenthesis, with the function in
  front of the parenthesis and the operations that were pending there.

An operator completes the pending operations that bind before it and then waits
for its right operand itself.  A closing parenthesis completes everything that is
pending in its group.  The reader stops in front of the first token that it
cannot take, and what it then has decides between a tree and an error.
-/

namespace Formula

namespace Tree

/-- Complete the pending operations that bind before the next operator does.
The remaining ones are returned with the left operand of that operator. -/
def settle (next : Operator) :
    List (Tree × Operator) → Tree → List (Tree × Operator) × Tree
  | [], right => ([], right)
  | (left, operator) :: pending, right =>
      if next.completes operator then
        settle next pending (.binary operator left right)
      else
        ((left, operator) :: pending, right)

def complete : List (Tree × Operator) → Tree → Tree
  | [], right => right
  | (left, operator) :: pending, right =>
      complete pending (.binary operator left right)

end Tree

/-- An open parenthesis, with the function in front of it and the operations
that wait for the value of the group. -/
structure Group where
  function? : Option Function
  pending : List (Tree × Operator)
  deriving DecidableEq

/-- The tree that a group stands for, given the tree inside it. -/
def Group.close (group : Group) (inner : Tree) : Tree :=
  match group.function? with
  | some function => .call function inner
  | none => inner

/-- What the reader waits for: the beginning of an operand, the parenthesis
behind the name of a function, or an operator or the end of a group behind a
whole operand. -/
inductive Expecting where
  | operand
  | opening (function : Function)
  | operator (left : Tree)
  deriving DecidableEq

/-- The reader between two tokens. -/
structure Reader where
  groups : List Group
  pending : List (Tree × Operator)
  expecting : Expecting
  deriving DecidableEq

namespace Reader

def initial : Reader :=
  ⟨[], [], .operand⟩

def supply (reader : Reader) (operand : Tree) : Reader :=
  { reader with expecting := .operator operand }

/-- Take an opening parenthesis, which may belong to a function. -/
def enter (reader : Reader) (function? : Option Function) : Reader :=
  ⟨⟨function?, reader.pending⟩ :: reader.groups, [], .operand⟩

/-- Take an operator behind an operand. -/
def defer (reader : Reader) (left : Tree) (operator : Operator) : Reader :=
  let settled := Tree.settle operator reader.pending left
  ⟨reader.groups, (settled.2, operator) :: settled.1, .operand⟩

/-- Take a closing parenthesis behind an operand, if a group is open. -/
def leave? (reader : Reader) (left : Tree) : Option Reader :=
  match reader.groups with
  | [] => none
  | group :: groups =>
      some
        ⟨groups, group.pending,
          .operator (group.close (Tree.complete reader.pending left))⟩

/-- Take one token, if the reader can.  Outside all parentheses only the
operators that the level admits are taken. -/
def advance? (level : Level) (reader : Reader) (token : Token) :
    Option Reader :=
  match reader.expecting, token.category with
  | .operand, .number => token.value?.map fun value => reader.supply (.const value)
  | .operand, .identifier => some (reader.supply (.var token.lexeme))
  | .operand, .function function =>
      some { reader with expecting := .opening function }
  | .operand, .leftParen => some (reader.enter none)
  | .opening function, .leftParen => some (reader.enter (some function))
  | .operator left, .operator operator =>
      if reader.groups.isEmpty && !level.admits operator then
        none
      else
        some (reader.defer left operator)
  | .operator left, .rightParen => reader.leave? left
  | _, _ => none

def missing (expected : Category) (next : Option Token) : GrammarError :=
  .missing expected (next.map fun token => (token.category, token.position))

/-- What the reader has when it stops, given the token in front of it. -/
def conclude (reader : Reader) (next : Option Token) :
    Except GrammarError Tree :=
  match reader.expecting with
  | .operand =>
      match next with
      | none => .error .incompleteExpression
      | some token =>
          .error
            (.unexpectedToken token.lexeme token.category token.position)
  | .opening _ => .error (missing .leftParen next)
  | .operator left =>
      match reader.groups with
      | [] => .ok (Tree.complete reader.pending left)
      | _ :: _ => .error (missing .rightParen next)

/-- Take tokens as long as the reader can.  The tokens that are left are
returned in any case. -/
def run (level : Level) (reader : Reader) :
    List Token → Except GrammarError Tree × List Token
  | [] => (reader.conclude none, [])
  | token :: rest =>
      match reader.advance? level token with
      | some next => run level next rest
      | none => (reader.conclude (some token), token :: rest)

end Reader

namespace Tree

/-- Read an expression of a level from the beginning of a list of tokens.  The
tokens that were not taken are returned, also with an error. -/
def readFront (level : Level) (tokens : List Token) :
    Except GrammarError Tree × List Token :=
  Reader.initial.run level tokens

/-- The tree of a list of tokens, all of which must be taken. -/
def ofTokens (tokens : List Token) : Except GrammarError Tree :=
  match readFront .sum tokens with
  | (.error cause, _) => .error cause
  | (.ok tree, []) => .ok tree
  | (.ok _, token :: _) => .error (.trailingTokens token.lexeme token.position)

end Tree

end Formula
