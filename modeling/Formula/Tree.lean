import Formula.Number
import Formula.Token

/-!
# Trees

The tree of a formula, without a trace of its parentheses, and two ways to write
it:

* on one line, with parentheses around every operation and around every constant
  with a sign, so that the text is read as the same tree;
* as a diagram with one line for each node, the node before its operands.  The
  lines of an operand hang from a connector in front of the first of them.
-/

namespace Formula

/-- A formula as a tree.  Two trees are compared with `==` by shape, numbers as
numbers are. -/
inductive Tree where
  | const (value : Float)
  | var (name : String)
  | binary (operator : Operator) (left right : Tree)
  | call (function : Function) (argument : Tree)
  deriving DecidableEq, BEq

namespace Tree

/-! ## Variables -/

/-- The names in a tree from left to right, each as often as it occurs. -/
def names : Tree → List String
  | .const _ => []
  | .var name => [name]
  | .binary _ left right => left.names ++ right.names
  | .call _ argument => argument.names

/-- The variables of a tree in the order of their first occurrences. -/
def variableNames (tree : Tree) : List String :=
  tree.names.eraseDups

@[simp]
theorem mem_variableNames {name : String} {tree : Tree} :
    name ∈ tree.variableNames ↔ name ∈ tree.names :=
  List.mem_eraseDups

/-! ## Text -/

def toText : Tree → String
  | .const value =>
      if Number.isNegative value then
        "(" ++ Number.plainText value ++ ")"
      else
        Number.plainText value
  | .var name => name
  | .binary operator left right =>
      "(" ++ left.toText ++ " " ++ String.singleton operator.symbol ++ " " ++
        right.toText ++ ")"
  | .call function argument => function.name ++ "(" ++ argument.toText ++ ")"

/-! ## Diagrams -/

/-- The label of the topmost node. -/
def label : Tree → String
  | .const value => "Constant(" ++ Number.labelText value ++ ")"
  | .var name => "VariableRef(" ++ name ++ ")"
  | .binary operator _ _ =>
      "BinaryOp(" ++ String.singleton operator.symbol ++ ")"
  | .call function _ => "Call(" ++ function.name ++ ")"

/-- Put one text in front of the first line and another in front of the
others. -/
def hang (first others : String) : List String → List String
  | [] => []
  | line :: lines => (first ++ line) :: lines.map (others ++ ·)

/-- Hang the lines of an operand that has another one behind it. -/
def hangMiddle : List String → List String :=
  hang "├─ " "│  "

def hangLast : List String → List String :=
  hang "└─ " "   "

def diagramLines : Tree → List String
  | tree@(.const _) => [tree.label]
  | tree@(.var _) => [tree.label]
  | tree@(.binary _ left right) =>
      tree.label ::
        (hangMiddle left.diagramLines ++ hangLast right.diagramLines)
  | tree@(.call _ argument) => tree.label :: hangLast argument.diagramLines

def diagram (tree : Tree) : String :=
  "\n".intercalate tree.diagramLines

end Tree

end Formula
