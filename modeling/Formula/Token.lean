/-!
# Tokens

A formula is written with the names of three functions, five operators,
parentheses, numbers and the names of variables.  A token is a number, a word or
a symbol, with the place of its first character.  What the grammar sees of it is
its category, which is computed: a word is a function if it is one of the
spellings of a function, and else the name of a variable.
-/

namespace Formula

/-! ## Functions -/

/-- A function of one argument, an angle in radians. -/
inductive Function where
  | sin
  | cos
  | tan
  deriving DecidableEq, Repr

namespace Function

def name : Function → String
  | .sin => "sin"
  | .cos => "cos"
  | .tan => "tan"

/-- The words that are read as a function.  Sine has its Spanish name too. -/
def spellings : Function → List String
  | .sin => ["sin", "Sin", "SIN", "sen", "Sen", "SEN"]
  | .cos => ["cos", "Cos", "COS"]
  | .tan => ["tan", "Tan", "TAN"]

def all : List Function :=
  [.sin, .cos, .tan]

/-- The function that a word names. -/
def ofWord? (word : String) : Option Function :=
  all.find? fun function => function.spellings.contains word

def apply : Function → Float → Float
  | .sin, argument => argument.sin
  | .cos, argument => argument.cos
  | .tan, argument => argument.tan

end Function

/-! ## Operators -/

inductive Operator where
  | add
  | sub
  | mul
  | div
  | pow
  deriving DecidableEq, Repr

/-- How tightly an operator binds: sums loosely, powers tightly.  Sums and
products group to the left, powers to the right. -/
inductive Level where
  | sum
  | product
  | power
  deriving DecidableEq, Repr

namespace Operator

def symbol : Operator → Char
  | .add => '+'
  | .sub => '-'
  | .mul => '*'
  | .div => '/'
  | .pow => '^'

def level : Operator → Level
  | .add | .sub => .sum
  | .mul | .div => .product
  | .pow => .power

def all : List Operator :=
  [.add, .sub, .mul, .div, .pow]

def ofChar? (character : Char) : Option Operator :=
  all.find? fun operator => operator.symbol == character

def ofText? (text : String) : Option Operator :=
  match text.toList with
  | [character] => ofChar? character
  | _ => none

end Operator

/-- Whether an expression of a level can hold an operator outside parentheses:
one of its own level or a tighter one. -/
def Level.admits : Level → Operator → Bool
  | .sum, _ => true
  | .product, operator => operator.level != .sum
  | .power, operator => operator.level == .power

/-- Whether a pending operation is completed when another operator follows its
right operand.  It is when it binds as tightly or more, except that powers wait
for the powers behind them. -/
def Operator.completes (next pending : Operator) : Bool :=
  next.level != .power && next.level.admits pending

/-! ## Categories -/

/-- The part that a token plays in a formula. -/
inductive Category where
  | function (named : Function)
  | operator (operation : Operator)
  | leftParen
  | rightParen
  | number
  | identifier
  deriving DecidableEq, Repr

namespace Category

def all : List Category :=
  Function.all.map .function ++ Operator.all.map .operator ++
    [.leftParen, .rightParen, .number, .identifier]

/-- The name of a category in listings and messages. -/
def name : Category → String
  | .function .sin => "Sin"
  | .function .cos => "Cos"
  | .function .tan => "Tan"
  | .operator .add => "Plus"
  | .operator .sub => "Minus"
  | .operator .mul => "Multiply"
  | .operator .div => "Divide"
  | .operator .pow => "Power"
  | .leftParen => "LParen"
  | .rightParen => "RParen"
  | .number => "Number"
  | .identifier => "Identifier"

def ofName? (name : String) : Option Category :=
  all.find? fun category => category.name == name

def function? : Category → Option Function
  | .function named => some named
  | _ => none

def operator? : Category → Option Operator
  | .operator operation => some operation
  | _ => none

/-- Whether a token of this category can be the last one of an operand.  A
minus behind such a token subtracts. -/
def endsOperand : Category → Bool
  | .number | .identifier | .rightParen => true
  | _ => false

end Category

/-! ## Symbols and tokens -/

/-- What is written with a single character. -/
inductive Symbol where
  | operator (operation : Operator)
  | leftParen
  | rightParen
  deriving DecidableEq, Repr

namespace Symbol

def char : Symbol → Char
  | .operator operation => operation.symbol
  | .leftParen => '('
  | .rightParen => ')'

def ofChar? (character : Char) : Option Symbol :=
  if character = '(' then
    some .leftParen
  else if character = ')' then
    some .rightParen
  else
    (Operator.ofChar? character).map .operator

@[simp]
theorem ofChar?_char (symbol : Symbol) : ofChar? symbol.char = some symbol := by
  cases symbol with
  | operator operation => cases operation <;> rfl
  | leftParen => rfl
  | rightParen => rfl

end Symbol

/-- A token of a formula.  Two tokens are compared with `==` by what they say,
numbers as numbers are. -/
inductive Token where
  | number (text : String) (value : Float) (position : Nat)
  | word (text : String) (position : Nat)
  | symbol (shape : Symbol) (position : Nat)
  deriving DecidableEq, BEq

namespace Token

def lexeme : Token → String
  | .number text _ _ => text
  | .word text _ => text
  | .symbol shape _ => String.singleton shape.char

def position : Token → Nat
  | .number _ _ position => position
  | .word _ position => position
  | .symbol _ position => position

def value? : Token → Option Float
  | .number _ value _ => some value
  | _ => none

def category : Token → Category
  | .number _ _ _ => .number
  | .word text _ =>
      match Function.ofWord? text with
      | some function => .function function
      | none => .identifier
  | .symbol (.operator operation) _ => .operator operation
  | .symbol .leftParen _ => .leftParen
  | .symbol .rightParen _ => .rightParen

/-- The same token with its position counted differently. -/
def relocate (place : Nat → Nat) : Token → Token
  | .number text value position => .number text value (place position)
  | .word text position => .word text (place position)
  | .symbol shape position => .symbol shape (place position)

end Token

end Formula
