import Formula.CommandLine.Options
import Formula.Evaluation

/-!
# What the command line answers

`Options.report` gives the lines that the options ask for, and `perform` all of
what a run leaves behind: the status, the output and the error output.
-/

namespace Formula.CommandLine

namespace Options

/-- The bindings under which a formula is evaluated.  The default is the value
of the listed variables that have none. -/
def bindingsFor (options : Options) (variableNames : List String) : Bindings :=
  let given := Bindings.ofList options.bindings
  match options.default? with
  | some value => given.fillMissing variableNames value
  | none => given

def evaluate (options : Options) (analysis : Analysis) :
    Except EvaluationError Float :=
  analysis.tree.eval (options.bindingsFor analysis.variableNames)

def resultText (options : Options) (result : Float) : String :=
  match options.precision? with
  | some places => Number.fixedText places result
  | none => Number.plainText result

def tokenLines (analysis : Analysis) : List String :=
  analysis.tokens.map fun token =>
    token.category.name ++ " : " ++ token.lexeme

/-- The lines that come before the result. -/
def listing (options : Options) (analysis : Analysis) : List String :=
  (if options.tokens then tokenLines analysis else []) ++
    (if options.tree then [analysis.tree.diagram] else [])

/-- The lines that the options ask for.  A diagram counts as one line.  Where
the variables are listed nothing is evaluated. -/
def report (options : Options) (source : String) :
    Except Error (List String) :=
  match analyze source with
  | .error cause => .error cause
  | .ok analysis =>
      if options.listVariables then
        .ok (options.listing analysis ++ analysis.variableNames)
      else
        match options.evaluate analysis with
        | .error cause => .error (.evaluation cause)
        | .ok result =>
            .ok (options.listing analysis ++ [options.resultText result])

end Options

/-- What a run leaves behind.  The status is zero for success, one for a
formula that fails, and two for a command line that is not understood. -/
structure Outcome where
  status : Nat
  output : String
  errors : String
  deriving DecidableEq, Repr

def usage : String :=
  "Usage: trigcalc [OPTIONS] <CONTENTS>\n\n" ++
  "Options:\n" ++
  "  -f, --file               Read the formula from the file CONTENTS\n" ++
  "  -v, --var <NAME=VALUE>   Give a variable a value\n" ++
  "  -d, --default <DEFAULT>  The value of all other variables\n" ++
  "  -t, --tokens             List the tokens\n" ++
  "  -T, --tree               Draw the tree\n" ++
  "  -l, --list-variables     List the variables and stop\n" ++
  "  -p, --precision <COUNT>  The number of places of the result\n" ++
  "  -h, --help               Show this text\n" ++
  "  -V, --version            Show the version\n"

def version : String := "trigcalc 0.1.0\n"

def UsageError.message : UsageError → String
  | .helpRequested => usage
  | .versionRequested => version
  | .unknownArgument => "error: unexpected argument found"
  | .unexpectedValue => "error: unexpected value for a flag"
  | .missingValue => "error: a value is required"
  | .repeated => "error: an argument cannot be used multiple times"
  | .rejected reason => "error: invalid value: " ++ reason.message
  | .missingContents => "error: the formula is missing"

def UsageError.outcome : UsageError → Outcome
  | .helpRequested => ⟨0, usage, ""⟩
  | .versionRequested => ⟨0, version, ""⟩
  | cause => ⟨2, "", cause.message ++ "\n\n" ++ usage⟩

def unlines (lines : List String) : String :=
  String.join (lines.map (· ++ "\n"))

/-- The outcome for the given options, when files are read by the given
function. -/
def Options.outcome (options : Options) (readFile? : String → Option String) :
    Outcome :=
  let source? :=
    if options.file then readFile? options.contents else some options.contents
  match source? with
  | none =>
      let name := options.contents
      ⟨1, "",
        s!"Failed to read the input file '{name}'. Perhaps this file does not exist?\n"⟩
  | some source =>
      match options.report source with
      | .ok lines => ⟨0, unlines lines, ""⟩
      | .error cause => ⟨1, "", cause.message ++ "\n"⟩

/-- The outcome of a run, when files are read by the given function. -/
def perform (readFile? : String → Option String) (arguments : List String) :
    Outcome :=
  match readArguments arguments with
  | .ok options => options.outcome readFile?
  | .error cause => cause.outcome

end Formula.CommandLine
