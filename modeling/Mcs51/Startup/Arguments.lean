/-! # Command line

At most one program to load, and an optional settings file. Of several settings files the last one
counts.
-/

namespace Mcs51

/-- What the command line asks for. -/
structure Arguments where
  program : Option String
  config : Option String
deriving DecidableEq, Repr

/-- Why a command line is refused. -/
inductive UsageError
  | missingConfigFile
  | unknownOption (option : String)
  | unexpectedArgument (argument : String)
deriving DecidableEq, Repr

def UsageError.message : UsageError → String
  | missingConfigFile => "--config needs a file"
  | unknownOption option => "unknown option '" ++ option ++ "'"
  | unexpectedArgument argument => "unexpected argument '" ++ argument ++ "'"

namespace Arguments

/-- An empty command line. -/
def none : Arguments :=
  ⟨.none, .none⟩

/-- Whether an argument names the settings file behind it. -/
def isConfigOption (argument : String) : Bool :=
  argument == "--config" || argument == "-c"

/-- Read arguments onto those read so far. -/
def parseOnto (seen : Arguments) : List String → Except UsageError Arguments
  | [] => .ok seen
  | argument :: rest =>
    if isConfigOption argument then
      match rest with
      | [] => .error .missingConfigFile
      | path :: rest => parseOnto { seen with config := some path } rest
    else if argument.toList.head? = some '-' then .error (.unknownOption argument)
    else if seen.program.isSome then .error (.unexpectedArgument argument)
    else parseOnto { seen with program := some argument } rest

/-- Read a command line. -/
def parse (arguments : List String) : Except UsageError Arguments :=
  parseOnto none arguments

end Arguments

end Mcs51
