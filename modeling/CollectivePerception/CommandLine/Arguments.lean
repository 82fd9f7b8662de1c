/-
This file defines the arguments of the program. An option that is given twice has the
value that it was given last.
-/

namespace CollectivePerception.CommandLine

structure Arguments where
  /-- Where the settings are kept, if not at the standard place. -/
  settings : Option String
  /-- Where to write the measurements, if anywhere. -/
  statistics : Option String
  printSchema : Bool
  saveStandard : Bool
deriving DecidableEq, Repr, Inhabited

/-- Why arguments are not understood. -/
inductive UsageError
  | noPath (option : String)
  | unknown (argument : String)
deriving DecidableEq, Repr

def UsageError.message : UsageError → String
  | noPath option => option ++ " needs a path"
  | unknown argument => "unknown argument \x60" ++ argument ++ "\x60"

namespace Arguments

def none : Arguments := ⟨.none, .none, false, false⟩

/-- Reads arguments on top of those read before. -/
def read (arguments : Arguments) : List String → Except UsageError Arguments
  | [] => .ok arguments
  | ["--config"] => .error (.noPath "--config")
  | ["--stats"] => .error (.noPath "--stats")
  | "--config" :: path :: rest => read { arguments with settings := some path } rest
  | "--stats" :: path :: rest => read { arguments with statistics := some path } rest
  | "--print-schema" :: rest => read { arguments with printSchema := true } rest
  | "--save-default" :: rest => read { arguments with saveStandard := true } rest
  | other :: _ => .error (.unknown other)

/-- The arguments that a list of texts gives. -/
def ofList (texts : List String) : Except UsageError Arguments := none.read texts

end Arguments

/-- The line that shows how to call the program. -/
def usageLine : String :=
  "  cpm-sim [--config <path>] [--stats <path>] [--print-schema] [--save-default]"

end CollectivePerception.CommandLine
