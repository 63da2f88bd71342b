/-!
# Command line arguments

The arguments of the command line: the command `check`, the file to check and
options in any order. Arguments are read from left to right and the first that
is wrong decides the error.
-/

namespace CobolCheck.Command

/-- What the arguments ask for. -/
structure Request where
  /-- The file to check. -/
  file : String
  /-- Whether the file holds a token stream instead of a source text. -/
  tokens : Bool := false
  /-- Whether to print the symbol table. -/
  emitSymbols : Bool := false
  /-- Whether to print the canonical token stream. -/
  emitTokens : Bool := false
  /-- How often more output was asked for. It has one byte. -/
  verbosity : Nat := 0
  deriving DecidableEq

/-- Why the arguments ask for no check. -/
inductive UsageError where
  /-- There is no command. -/
  | missingCommand
  /-- The command is unknown. -/
  | unknownCommand
  /-- There is no file. -/
  | missingFile
  /-- An option is unknown, or there is a second file. -/
  | unknownArgument
  /-- An option that may be given once is given twice. -/
  | repeatedOption
  /-- An option that takes no value has one. -/
  | unexpectedValue
  /-- The name of the file is empty. -/
  | emptyFile
  /-- The arguments ask for help. -/
  | helpWanted
  /-- The arguments ask for the version. -/
  | versionWanted
  deriving DecidableEq

/-- The options of the command. -/
inductive Flag where
  | tokens
  | emitSymbols
  | emitTokens
  | verbose
  | help
  deriving DecidableEq

namespace Flag

/-- The option with a long name. -/
def ofName? : String → Option Flag
  | "tokens" => some tokens
  | "emit-symbols" => some emitSymbols
  | "emit-tokens" => some emitTokens
  | "verbose" => some verbose
  | "help" => some help
  | _ => none

/-- The option with a short name. -/
def ofLetter? : Char → Option Flag
  | 'v' => some verbose
  | 'h' => some help
  | _ => none

end Flag

/-- The arguments that are read so far. The file is missing as long as none is given. -/
structure Progress where
  file : Option String := none
  tokens : Bool := false
  emitSymbols : Bool := false
  emitTokens : Bool := false
  verbosity : Nat := 0

namespace Progress

/-- Sets an option that may be given once. -/
def once (given : Bool) (next : Progress) : Except UsageError Progress :=
  if given then .error .repeatedOption else .ok next

/-- Takes an option. The name of a file that stands before it is looked at first. -/
def flag (progress : Progress) (flag : Flag) : Except UsageError Progress :=
  if progress.file = some "" then .error .emptyFile
  else
    match flag with
    | .tokens => once progress.tokens { progress with tokens := true }
    | .emitSymbols => once progress.emitSymbols { progress with emitSymbols := true }
    | .emitTokens => once progress.emitTokens { progress with emitTokens := true }
    | .verbose => .ok { progress with verbosity := min 255 (progress.verbosity + 1) }
    | .help => .error .helpWanted

/-- Takes the name of the file. -/
def operand (progress : Progress) (name : String) : Except UsageError Progress :=
  match progress.file with
  | none => .ok { progress with file := some name }
  | some _ => .error .unknownArgument

/-- Takes a long option, without its dashes. -/
def long (progress : Progress) (text : List Char) : Except UsageError Progress :=
  match Flag.ofName? (String.ofList (text.takeWhile (· ≠ '='))) with
  | none => .error .unknownArgument
  | some flag => if '=' ∈ text then .error .unexpectedValue else progress.flag flag

/-- Takes short options, without their dash. -/
def short (progress : Progress) (letters : List Char) : Except UsageError Progress :=
  letters.foldlM (fun progress letter =>
    match Flag.ofLetter? letter with
    | none => .error .unknownArgument
    | some flag => progress.flag flag) progress

/-- The request, once all arguments are read. -/
def request (progress : Progress) : Except UsageError Request :=
  match progress.file with
  | none => .error .missingFile
  | some "" => .error .emptyFile
  | some file =>
      .ok {
        file
        tokens := progress.tokens
        emitSymbols := progress.emitSymbols
        emitTokens := progress.emitTokens
        verbosity := progress.verbosity }

/-- Reads the arguments of the command. After two dashes there are no more options. -/
def read (progress : Progress) : List String → Except UsageError Progress
  | [] => .ok progress
  | argument :: rest =>
      match argument.toList with
      | ['-', '-'] => rest.foldlM operand progress
      | '-' :: '-' :: text => do read (← progress.long text) rest
      | '-' :: letter :: letters => do read (← progress.short (letter :: letters)) rest
      | _ => do read (← progress.operand argument) rest

end Progress

/-- The commands: to check a file, and to get help. -/
def commands : List String :=
  ["check", "help"]

/-- The error for words after the command that gives help. -/
def helpOn : List String → UsageError
  | [] => .helpWanted
  | [topic] => if topic ∈ commands then .helpWanted else .unknownCommand
  | _ => .unknownCommand

/-- The error for an argument that is no command. Only help and the version can
be asked for without a command. -/
def notACommand (argument : String) (rest : List String) : UsageError :=
  match argument.toList with
  | ['-', '-'] =>
      match rest with
      | [] => .missingCommand
      | word :: _ => if word ∈ commands then .unknownArgument else .unknownCommand
  | '-' :: '-' :: text =>
      let name := String.ofList (text.takeWhile (· ≠ '='))
      if name ∉ ["help", "version"] then .unknownArgument
      else if '=' ∈ text then .unexpectedValue
      else if name = "help" then .helpWanted else .versionWanted
  | '-' :: 'h' :: _ => .helpWanted
  | '-' :: 'V' :: _ => .versionWanted
  | '-' :: _ :: _ => .unknownArgument
  | _ => .unknownCommand

/-- What the arguments ask for, or why they ask for nothing. -/
def Request.ofArguments : List String → Except UsageError Request
  | [] => .error .missingCommand
  | "check" :: rest => do (← ({} : Progress).read rest).request
  | "help" :: topics => .error (helpOn topics)
  | argument :: rest => .error (notACommand argument rest)

end CobolCheck.Command
