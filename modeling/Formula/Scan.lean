import Formula.Error
import Formula.Literal
import Formula.Text

/-!
# From text to tokens

Blanks mean nothing, so the scanner works on the visible characters of a source
and counts places among them; `scan` then turns these places into offsets in the
source.

At each point the scanner takes the longest lexeme that begins there.  A minus
with a literal directly behind it is the sign of that literal, unless the token
before it ends an operand.  A literal is taken by its look alone and refused if
it turns out to have no value.
-/

namespace Formula

/-- A piece of text that makes a token. -/
inductive Lexeme where
  | literal (text : List Char)
  | word (text : List Char)
  | symbol (shape : Symbol)
  deriving DecidableEq, Repr

namespace Lexeme

def text : Lexeme → List Char
  | .literal characters => characters
  | .word characters => characters
  | .symbol shape => [shape.char]

/-- The token that a lexeme makes.  A literal without a value makes none. -/
def token? (position : Nat) : Lexeme → Option Token
  | .literal text =>
      (Literal.value? text).map (.number (String.ofList text) · position)
  | .word text => some (.word (String.ofList text) position)
  | .symbol shape => some (.symbol shape position)

/-- Whether a character can begin the digits of a literal. -/
def isNumeral (character : Char) : Bool :=
  character.isDigit || character == '.'

def startsLiteral (text : List Char) : Bool :=
  text.head?.any isNumeral

/-- The longest beginning of a text that looks like an exponent: a mark, an
optional sign and digits, of which there may be none. -/
def exponentRun : List Char → List Char
  | [] => []
  | mark :: rest =>
      if mark = 'e' ∨ mark = 'E' then
        mark ::
          match rest with
          | [] => []
          | sign :: digits =>
              if sign = '+' ∨ sign = '-' then
                sign :: digits.takeWhile Char.isDigit
              else
                rest.takeWhile Char.isDigit
      else
        []

/-- The longest beginning of a text that looks like a literal without a sign:
digits and points, and an exponent behind them. -/
def literalRun (text : List Char) : List Char :=
  text.takeWhile isNumeral ++ exponentRun (text.dropWhile isNumeral)

/-- The lexeme at the beginning of a text, given whether an operand ends right
before it. -/
def first? (afterOperand : Bool) : List Char → Option Lexeme
  | [] => none
  | character :: rest =>
      if isNumeral character then
        some (.literal (literalRun (character :: rest)))
      else if character = '-' && !afterOperand && startsLiteral rest then
        some (.literal ('-' :: literalRun rest))
      else
        match Symbol.ofChar? character with
        | some shape => some (.symbol shape)
        | none =>
            if Text.isLetter character then
              some (.word ((character :: rest).takeWhile Text.isLetter))
            else
              none

theorem length_text_pos_of_first? {afterOperand : Bool} {text : List Char}
    {lexeme : Lexeme} (found : first? afterOperand text = some lexeme) :
    0 < lexeme.text.length := by
  cases text with
  | nil => simp [first?] at found
  | cons character rest =>
      simp only [first?] at found
      split at found
      next numeral =>
        obtain rfl := Option.some.inj found
        simp [Lexeme.text, literalRun, numeral]
      next =>
        split at found
        next =>
          obtain rfl := Option.some.inj found
          simp [Lexeme.text]
        next =>
          split at found
          next =>
            obtain rfl := Option.some.inj found
            simp [Lexeme.text]
          next =>
            split at found
            next letter =>
              obtain rfl := Option.some.inj found
              simp [Lexeme.text, letter]
            next => contradiction

end Lexeme

/-- The tokens of a text without blanks.  Given are whether an operand ends
before the text, how many characters at its beginning still belong to the last
lexeme, and the place of its first character. -/
def scanFrom (afterOperand : Bool) :
    (taken place : Nat) → List Char → Except ScanError (List Token)
  | _, _, [] => .ok []
  | taken + 1, place, _ :: rest =>
      scanFrom afterOperand taken (place + 1) rest
  | 0, place, character :: rest =>
      match Lexeme.first? afterOperand (character :: rest) with
      | none => .error (.unrecognizedCharacter character place)
      | some lexeme =>
          match lexeme.token? place with
          | none =>
              .error (.malformedNumber (String.ofList lexeme.text) place)
          | some token =>
              (scanFrom token.category.endsOperand (lexeme.text.length - 1)
                (place + 1) rest).map (token :: ·)

/-- Characters that are taken already do not matter. -/
theorem scanFrom_taken (afterOperand : Bool) {taken place : Nat}
    {text : List Char} (within : taken ≤ text.length) :
    scanFrom afterOperand taken place text =
      scanFrom afterOperand 0 (place + taken) (text.drop taken) := by
  induction taken generalizing place text with
  | zero => rfl
  | succ taken inductionHypothesis =>
      cases text with
      | nil => simp at within
      | cons character rest =>
          rw [scanFrom, inductionHypothesis (by simpa using within)]
          simp [Nat.add_comm, Nat.add_left_comm]

/-- The tokens of a source, with the offsets of their first characters. -/
def scan (source : String) : Except ScanError (List Token) :=
  let offsets := (Text.visibleOffsets source.toList).toArray
  let offset := fun place => offsets.getD place 0
  match scanFrom false 0 0 (Text.visible source.toList) with
  | .ok tokens => .ok (tokens.map (Token.relocate offset))
  | .error cause => .error (cause.relocate offset)

end Formula
