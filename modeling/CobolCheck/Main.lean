import CobolCheck.Command.Run

/-!
# The command line program

Reads the arguments and the file they name, and prints what the run says. The
exit code is zero if the run succeeds, one if it fails, and two if the arguments
cannot be understood.
-/

namespace CobolCheck.Command

/-- How the command is used. -/
def usage : String :=
  "usage: cobol-check check [--tokens] [--emit-symbols] [--emit-tokens] [-v] FILE"

/-- The error in words. -/
def UsageError.message : UsageError → String
  | missingCommand => "no command"
  | unknownCommand => "unknown command"
  | missingFile => "no file"
  | unknownArgument => "unknown argument"
  | repeatedOption => "option given twice"
  | unexpectedValue => "option with a value"
  | emptyFile => "empty file name"
  | helpWanted => "checks a COBOL source text or token stream"
  | versionWanted => "cobol-check 0.1.0"

/-- The bytes of a file, unless it cannot be read. -/
def readFile (name : String) : IO (Option ByteArray) := do
  try
    return some (← IO.FS.readBinFile name)
  catch _ =>
    return none

/-- Runs a request and prints what it says. -/
def Request.perform (request : Request) : IO UInt32 := do
  let printed := request.run (← readFile request.file)
  for line in printed.output do
    IO.println line
  for line in printed.log do
    IO.eprintln line
  match printed.error with
  | none => return 0
  | some error =>
      IO.eprintln error.message
      return 1

end CobolCheck.Command

open CobolCheck.Command in
/-- Runs the program on its arguments. -/
def main (arguments : List String) : IO UInt32 := do
  match Request.ofArguments arguments with
  | .ok request => request.perform
  | .error error =>
      IO.eprintln error.message
      IO.eprintln usage
      return 2
