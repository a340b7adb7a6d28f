import Formula.Token

/-!
# What can be wrong with a formula

Each stage has its own causes of failure; a cause keeps what is needed to point
at the fault.  The wording is in the `message` functions alone.  Positions count
characters of the source from zero.
-/

namespace Formula

/-- Why a text cannot be cut into tokens: a character begins none, or a text
looks like a number and has no value. -/
inductive ScanError where
  | unrecognizedCharacter (character : Char) (position : Nat)
  | malformedNumber (text : String) (position : Nat)
  deriving DecidableEq, Repr

namespace ScanError

def position : ScanError → Nat
  | .unrecognizedCharacter _ position => position
  | .malformedNumber _ position => position

/-- The same fault with its position counted differently. -/
def relocate (place : Nat → Nat) : ScanError → ScanError
  | .unrecognizedCharacter character position =>
      .unrecognizedCharacter character (place position)
  | .malformedNumber text position => .malformedNumber text (place position)

def message : ScanError → String
  | .unrecognizedCharacter character position =>
      s!"Unrecognized character '{character}' at position {position}."
  | .malformedNumber text position =>
      s!"Malformed number '{text}' at position {position}."

end ScanError

/-- Why a list of tokens is no formula.

* Where an operand must begin there is a token that begins none, or the end.
* Where a parenthesis must stand something else is `found`, or the end.
* Tokens follow a whole formula. -/
inductive GrammarError where
  | unexpectedToken (lexeme : String) (category : Category) (position : Nat)
  | missing (expected : Category) (found : Option (Category × Nat))
  | trailingTokens (lexeme : String) (position : Nat)
  | incompleteExpression
  deriving DecidableEq, Repr

namespace GrammarError

/-- Whether the tokens ended too early. -/
def isIncomplete : GrammarError → Bool
  | .incompleteExpression => true
  | .missing _ none => true
  | _ => false

def message : GrammarError → String
  | .unexpectedToken lexeme category position =>
      let name := category.name
      s!"Unexpected token '{lexeme}' ({name}) at position {position}."
  | .missing expected found =>
      let wanted := expected.name
      let met :=
        match found with
        | some (category, _) => category.name
        | none => "the end of the expression"
      s!"Expected {wanted} but found {met}."
  | .trailingTokens lexeme position =>
      s!"Extra tokens after expression, starting with '{lexeme}' at position {position}."
  | .incompleteExpression => "Incomplete expression."

end GrammarError

/-- Why a tree has no value. -/
inductive EvaluationError where
  | undefinedVariable (name : String)
  | divisionByZero
  deriving DecidableEq, Repr

def EvaluationError.message : EvaluationError → String
  | .undefinedVariable name => s!"Undefined variable: {name}."
  | .divisionByZero => "Division by zero."

/-- A text that was to name an operator or a function and names none. -/
inductive UnknownName where
  | operator (text : String)
  | function (text : String)
  deriving DecidableEq, Repr

def UnknownName.message : UnknownName → String
  | .operator text => s!"Unknown operator: {text}."
  | .function text => s!"Unknown function: {text}."

/-- Why a source has no value, with the stage that failed. -/
inductive Error where
  | scanning (cause : ScanError)
  | grammar (cause : GrammarError)
  | evaluation (cause : EvaluationError)
  deriving DecidableEq, Repr

def Error.message : Error → String
  | .scanning cause => cause.message
  | .grammar cause => cause.message
  | .evaluation cause => cause.message

def Operator.ofText (text : String) : Except UnknownName Operator :=
  match Operator.ofText? text with
  | some operator => .ok operator
  | none => .error (.operator text)

def Function.ofWord (word : String) : Except UnknownName Function :=
  match Function.ofWord? word with
  | some function => .ok function
  | none => .error (.function word)

end Formula
