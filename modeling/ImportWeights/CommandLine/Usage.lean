import ImportWeights.CommandLine.Spec

/-! Why a command line is not carried out: it asks only for the help or the version, or it is
wrong. -/

namespace ImportWeights.CommandLine

/-- What is wrong with a command line. -/
inductive UsageError where
  /-- Something that is neither an option nor the value of one. -/
  | unknownArgument (argument : String)
  /-- A value for a switch. -/
  | unexpectedValue (option : OptionKey)
  | missingValue (option : OptionKey)
  /-- A value that the option does not know, or an empty path. -/
  | unfitValue (option : OptionKey) (value : String)
  /-- A number that is none, or is too small. -/
  | unfitNumber (option : OptionKey) (value reason : String)
  /-- An option given twice, or two that exclude each other. -/
  | conflict (option other : OptionKey)
deriving DecidableEq, Repr

inductive Refusal where
  | helpAsked (full : Bool)
  | versionAsked (full : Bool)
  | usage (error : UsageError)
deriving DecidableEq, Repr

/-- The option as messages call it. -/
def OptionKey.label (key : OptionKey) : String :=
  match optionSpecs.find? fun o => o.key = key with
  | some o => "--" ++ o.long ++ (match o.valueName with
      | some name => " <" ++ name ++ ">"
      | none => "")
  | none => ""

def UsageError.message : UsageError → String
  | unknownArgument argument => "unexpected argument '" ++ argument ++ "' found"
  | unexpectedValue option => "unexpected value for '" ++ option.label ++ "' found; no more were expected"
  | missingValue option =>
    "a value is required for '" ++ option.label ++ "' but none was supplied"
  | unfitValue option value => "invalid value '" ++ value ++ "' for '" ++ option.label ++ "'"
  | unfitNumber option value reason =>
    "invalid value '" ++ value ++ "' for '" ++ option.label ++ "': " ++ reason
  | conflict option other =>
    if option = other then "the argument '" ++ option.label ++ "' cannot be used multiple times"
    else "the argument '" ++ option.label ++ "' cannot be used with '" ++ other.label ++ "'"

/-- The exit code after a wrong command line. -/
def usageExitCode : Nat := 2

end ImportWeights.CommandLine
