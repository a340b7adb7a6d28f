import Formula.Number

/-!
# Numeric literals

A literal is an optional sign, digits with an optional point among or around
them, and an optional exponent.  The automaton reads it character by character;
`State.rejected` is left by no step, so a text that reaches it is the beginning
of no literal.  A text has a value when the automaton accepts it and the nearest
float is finite.
-/

namespace Formula.Literal

/-- The kinds of characters that the automaton tells apart. -/
inductive CharClass where
  | digit
  | point
  | sign
  | exponentMark
  | other
  deriving DecidableEq, Repr

def CharClass.of (character : Char) : CharClass :=
  if character.isDigit then
    .digit
  else if character = '.' then
    .point
  else if character = '+' ∨ character = '-' then
    .sign
  else if character = 'e' ∨ character = 'E' then
    .exponentMark
  else
    .other

/-- What has been read of a literal so far, named by the part that its last
character belongs to.  The point of `wholePoint` has digits before it and that
of `leadingPoint` has none, so only the first may end a literal. -/
inductive State where
  | start
  | sign
  | whole
  | wholePoint
  | leadingPoint
  | fraction
  | exponentMark
  | exponentSign
  | exponentDigits
  | rejected
  deriving DecidableEq, Repr

namespace State

def step : State → CharClass → State
  | .start, .digit => .whole
  | .start, .point => .leadingPoint
  | .start, .sign => .sign
  | .sign, .digit => .whole
  | .sign, .point => .leadingPoint
  | .whole, .digit => .whole
  | .whole, .point => .wholePoint
  | .whole, .exponentMark => .exponentMark
  | .wholePoint, .digit => .fraction
  | .wholePoint, .exponentMark => .exponentMark
  | .leadingPoint, .digit => .fraction
  | .fraction, .digit => .fraction
  | .fraction, .exponentMark => .exponentMark
  | .exponentMark, .digit => .exponentDigits
  | .exponentMark, .sign => .exponentSign
  | .exponentSign, .digit => .exponentDigits
  | .exponentDigits, .digit => .exponentDigits
  | _, _ => .rejected

/-- Whether the text read so far is a whole literal. -/
def accepting : State → Bool
  | .whole | .wholePoint | .fraction | .exponentDigits => true
  | _ => false

def runFrom (state : State) (text : List Char) : State :=
  text.foldl (fun reached character => reached.step (CharClass.of character))
    state

/-- The states met while reading a text from a given state, that one first. -/
def trace : State → List Char → List State
  | state, [] => [state]
  | state, character :: rest =>
      state :: trace (state.step (CharClass.of character)) rest

theorem step_rejected (kind : CharClass) : step .rejected kind = .rejected := by
  cases kind <;> rfl

end State

def run (text : List Char) : State :=
  State.runFrom .start text

/-- The value of a numeric literal.  A text that is no literal has none, and
neither has a literal beyond the range of the floats. -/
def value? (text : List Char) : Option Float :=
  if (run text).accepting then
    (some (Number.ofLiteral text)).filter Float.isFinite
  else
    none

theorem accepting_of_value? {text : List Char} {value : Float}
    (read : value? text = some value) : (run text).accepting = true := by
  unfold value? at read
  split at read
  · assumption
  · contradiction

theorem isFinite_of_value? {text : List Char} {value : Float}
    (read : value? text = some value) : value.isFinite = true := by
  unfold value? at read
  split at read
  · exact (Option.filter_eq_some_iff.mp read).2
  · contradiction

end Formula.Literal
