import Formula.CommandLine.Report

/-!
# The program

Reads the file that the command line names, if it names one, and writes out the
outcome of the run.
-/

namespace Formula

/-- The text of a file, unless it cannot be read. -/
def readFile? (name : String) : IO (Option String) :=
  try
    some <$> IO.FS.readFile name
  catch _ =>
    return none

end Formula

open Formula Formula.CommandLine in
/-- Run the program. -/
def main (arguments : List String) : IO UInt32 := do
  let text? ←
    match readArguments arguments with
    | .ok options => if options.file then readFile? options.contents else pure none
    | .error _ => pure none
  let outcome := perform (fun _ => text?) arguments
  IO.print outcome.output
  IO.eprint outcome.errors
  return outcome.status.toUInt32
