import Formula.Literal
import Formula.Text
import Formula.Token

/-!
# Reading the command line

The arguments are taken one after the other.  An argument is

* a flag or an option, long (`--tree`, `--default=1`) or in a group of short ones
  (`-tTd1`);
* the value of the option before it;
* `--`, behind which everything is a plain argument;
* or a plain argument, of which there must be exactly one.

The value of an option that stands in an argument of its own is examined when the
next argument has been recognised, and at the end.
-/

namespace Formula.CommandLine

/-! ## Values of options

A binding `NAME=VALUE`, a number or a count of places.  Blanks around a name or
a number do not matter. -/

/-- Why the value of an option is refused. -/
inductive Rejection where
  | notABinding (text : String)
  | notAName (name : String)
  | functionName (name : String)
  | notANumber (text : String)
  | emptyCount
  | notADigit
  | countTooLarge
  deriving DecidableEq, Repr

def Rejection.message : Rejection → String
  | .notABinding text => s!"'{text}' is not of the form NAME=VALUE"
  | .notAName name => s!"'{name}' is not a valid variable name"
  | .functionName name => s!"'{name}' is a function name and cannot be bound"
  | .notANumber text => s!"'{text}' is not a valid number"
  | .emptyCount => "cannot parse integer from empty string"
  | .notADigit => "invalid digit found in string"
  | .countTooLarge => "number too large to fit in target type"

/-- Read a number by the rules for literals. -/
def readNumber (text : String) : Except Rejection Float :=
  match Literal.value? (Text.trimBlanks text.toList) with
  | some value => .ok value
  | none => .error (.notANumber text)

/-- Whether a name can be given a value: it has characters, and all of them are
alphabetic. -/
def isBindable (name : String) : Bool :=
  !name.toList.isEmpty && name.toList.all Text.isAlphabetic

/-- Read a binding.  The first equals sign ends the name. -/
def readBinding (text : String) : Except Rejection (String × Float) :=
  let before := text.toList.takeWhile (· != '=')
  match text.toList.dropWhile (· != '=') with
  | [] => .error (.notABinding text)
  | _ :: after =>
      let name := String.ofList (Text.trimBlanks before)
      if !isBindable name then
        .error (.notAName name)
      else if (Function.ofWord? name).isSome then
        .error (.functionName name)
      else
        (readNumber (String.ofList after)).map (name, ·)

/-- Read the digits of a count behind those that were read already.  A count
has to fit into sixty-four bits. -/
def readCountFrom (count : Nat) : List Char → Except Rejection Nat
  | [] => .ok count
  | character :: rest =>
      if !character.isDigit then
        .error .notADigit
      else
        let longer := 10 * count + (character.toNat - '0'.toNat)
        if longer < UInt64.size then
          readCountFrom longer rest
        else
          .error .countTooLarge

/-- Read a count of places.  A plus may stand in front of the digits. -/
def readCount (text : String) : Except Rejection Nat :=
  match text.toList with
  | [] => .error .emptyCount
  | ['+'] => .error .notADigit
  | '+' :: digits => readCountFrom 0 digits
  | digits => readCountFrom 0 digits

/-! ## Options and switches -/

/-- What the command line asks for.  The contents are the formula, or with
`file` the name of the file that holds it; the bindings stand in the order in
which they were given. -/
structure Options where
  file : Bool := false
  tokens : Bool := false
  tree : Bool := false
  listVariables : Bool := false
  bindings : List (String × Float) := []
  default? : Option Float := none
  precision? : Option Nat := none
  contents : String := ""

/-- Why a command line is not carried out.  Asking for help or for the version
is one of the reasons. -/
inductive UsageError where
  | helpRequested
  | versionRequested
  | unknownArgument
  | unexpectedValue
  | missingValue
  | repeated
  | rejected (reason : Rejection)
  | missingContents
  deriving DecidableEq, Repr

/-- A switch that takes no value. -/
inductive Flag where
  | file
  | tokens
  | tree
  | listVariables
  | help
  | version
  deriving DecidableEq, Repr

/-- A switch that takes a value. -/
inductive Setting where
  | binding
  | default
  | precision
  deriving DecidableEq, Repr

inductive Switch where
  | flag (named : Flag)
  | setting (named : Setting)
  deriving DecidableEq, Repr

namespace Switch

def table : List (String × Char × Switch) :=
  [ ("file", 'f', .flag .file),
    ("tokens", 't', .flag .tokens),
    ("tree", 'T', .flag .tree),
    ("list-variables", 'l', .flag .listVariables),
    ("help", 'h', .flag .help),
    ("version", 'V', .flag .version),
    ("var", 'v', .setting .binding),
    ("default", 'd', .setting .default),
    ("precision", 'p', .setting .precision)]

def ofLong? (name : String) : Option Switch :=
  (table.find? fun entry => entry.1 == name).map (·.2.2)

def ofShort? (letter : Char) : Option Switch :=
  (table.find? fun entry => entry.2.1 == letter).map (·.2.2)

end Switch

/-- Digits, and after the first one at most one point, at most one exponent mark
that is not the last character, and no point behind the mark. -/
def isPlainNumber : List Char → Bool
  | [] => false
  | first :: rest => first.isDigit && wholePart rest
where
  wholePart : List Char → Bool
    | [] => true
    | character :: rest =>
        if character.isDigit then
          wholePart rest
        else if character = '.' then
          fractionPart rest
        else
          (character = 'e' || character = 'E') && exponentPart rest
  fractionPart : List Char → Bool
    | [] => true
    | character :: rest =>
        if character.isDigit then
          fractionPart rest
        else
          (character = 'e' || character = 'E') && exponentPart rest
  exponentPart (text : List Char) : Bool :=
    !text.isEmpty && text.all Char.isDigit

/-! ## Taking the arguments -/

/-- The command line as far as it has been read.  What is open is an option in
an argument of its own that has not been examined, with its value if that has
been met. -/
structure Draft where
  options : Options := {}
  hasContents : Bool := false
  plainOnly : Bool := false
  open? : Option (Setting × Option String) := none

namespace Draft

def setFlag (draft : Draft) (flag : Flag) : Except UsageError Draft :=
  let options := draft.options
  match flag with
  | .help => .error .helpRequested
  | .version => .error .versionRequested
  | .file =>
      if options.file then .error .repeated
      else .ok { draft with options := { options with file := true } }
  | .tokens =>
      if options.tokens then .error .repeated
      else .ok { draft with options := { options with tokens := true } }
  | .tree =>
      if options.tree then .error .repeated
      else .ok { draft with options := { options with tree := true } }
  | .listVariables =>
      if options.listVariables then .error .repeated
      else .ok { draft with options := { options with listVariables := true } }

/-- Give an option its value.  Only bindings may be given more than once. -/
def setValue (draft : Draft) (setting : Setting) (text : String) :
    Except UsageError Draft :=
  let options := draft.options
  match setting with
  | .binding =>
      match readBinding text with
      | .error reason => .error (.rejected reason)
      | .ok pair =>
          .ok { draft with
            options := { options with bindings := options.bindings ++ [pair] } }
  | .default =>
      if options.default?.isSome then
        .error .repeated
      else
        match readNumber text with
        | .error reason => .error (.rejected reason)
        | .ok value =>
            .ok { draft with options := { options with default? := some value } }
  | .precision =>
      if options.precision?.isSome then
        .error .repeated
      else
        match readCount text with
        | .error reason => .error (.rejected reason)
        | .ok count =>
            .ok { draft with
              options := { options with precision? := some count } }

/-- Examine the option that is still open. -/
def settle (draft : Draft) : Except UsageError Draft :=
  match draft.open? with
  | none => .ok draft
  | some (_, none) => .error .missingValue
  | some (setting, some text) =>
      { draft with open? := none }.setValue setting text

/-- The option that waits for its value. -/
def awaiting? (draft : Draft) : Option Setting :=
  match draft.open? with
  | some (setting, none) => some setting
  | _ => none

def takePlain (draft : Draft) (argument : String) : Except UsageError Draft :=
  if draft.hasContents then
    .error .unknownArgument
  else do
    let settled ← draft.settle
    return { settled with
      hasContents := true
      options := { settled.options with contents := argument } }

/-- Take a long flag or option, with the value attached to it if there is one. -/
def takeLong (draft : Draft) (name : String) (attached? : Option String) :
    Except UsageError Draft :=
  match Switch.ofLong? name, attached? with
  | none, _ => .error .unknownArgument
  | some (.flag _), some _ => .error .unexpectedValue
  | some (.flag flag), none => do
      (← draft.settle).setFlag flag
  | some (.setting setting), some text => do
      (← draft.settle).setValue setting text
  | some (.setting setting), none => do
      return { (← draft.settle) with open? := some (setting, none) }

/-- Take the letters of a group.  What follows the letter of an option is its
value, an equals sign between them apart. -/
def takeShort (draft : Draft) : List Char → Except UsageError Draft
  | [] => .ok draft
  | letter :: rest =>
      match Switch.ofShort? letter with
      | none => .error .unknownArgument
      | some (.flag flag) => do
          takeShort (← (← draft.settle).setFlag flag) rest
      | some (.setting setting) =>
          match rest with
          | [] => do
              return { (← draft.settle) with open? := some (setting, none) }
          | '=' :: text => do
              (← draft.settle).setValue setting (String.ofList text)
          | text => do
              (← draft.settle).setValue setting (String.ofList text)

/-- Take an argument that is no flag and no option: the value that is waited
for, or a plain argument. -/
def takeText (draft : Draft) (argument : String) : Except UsageError Draft :=
  match draft.awaiting? with
  | some setting => .ok { draft with open? := some (setting, some argument) }
  | none => draft.takePlain argument

/-- Take one argument.  A negative number is the value of a default that waits
for one, though it looks like a group of flags. -/
def take (draft : Draft) (argument : String) : Except UsageError Draft :=
  if draft.plainOnly then
    draft.takePlain argument
  else
    match argument.toList with
    | ['-', '-'] => .ok { draft with plainOnly := true }
    | '-' :: '-' :: text =>
        draft.takeLong (String.ofList (text.takeWhile (· != '=')))
          ((text.dropWhile (· != '=')).tail?.map String.ofList)
    | ['-'] => draft.takeText argument
    | '-' :: letters =>
        if draft.awaiting? = some .default && isPlainNumber letters then
          draft.takeText argument
        else
          draft.takeShort letters
    | _ => draft.takeText argument

def finish (draft : Draft) : Except UsageError Options := do
  let settled ← draft.settle
  if settled.hasContents then
    return settled.options
  else
    throw .missingContents

end Draft

def readArguments (arguments : List String) : Except UsageError Options := do
  let draft ← arguments.foldlM Draft.take {}
  draft.finish

end Formula.CommandLine
