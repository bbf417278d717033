import ImportWeights.CommandLine.Usage
import ImportWeights.Settings.Options
import ImportWeights.Text.Ascii
import ImportWeights.Text.Pieces

/-! Reading a command line, argument by argument. An option whose value is to follow waits
until the next option comes or the arguments end; only then is it carried out. Variables of
the environment stand in for options that were not given. -/

namespace ImportWeights.CommandLine

open ImportWeights.Files ImportWeights.Settings

/-- What an argument looks like. -/
inductive Token where
  | long (name : String) (value : Option String)
  /-- Letters after one dash. -/
  | short (letters : List Char)
  /-- Two dashes: no options follow. -/
  | endOfOptions
  | plain (text : String)
deriving DecidableEq, Repr

def Token.ofArgument (argument : String) : Token :=
  match argument.toList with
  | ['-', '-'] => .endOfOptions
  | '-' :: '-' :: rest =>
    let name := String.ofList (rest.takeWhile (· ≠ '='))
    match rest.dropWhile (· ≠ '=') with
    | _ :: value => .long name (some (String.ofList value))
    | [] => .long name none
  | '-' :: c :: rest => .short (c :: rest)
  | _ => .plain argument

/-- The largest number that is understood. -/
def maxNumber : Nat := Nat.pow 2 64 - 1

/-- A whole number with an optional plus sign. -/
def number? (s : String) : Option Nat :=
  let digits := match s.toList with
    | '+' :: rest => rest
    | cs => cs
  let n := Text.digitsValue 10 digits
  if digits ≠ [] && digits.all Text.isDigit && n ≤ maxNumber then some n else none

private def refuse {α : Type} (e : UsageError) : Except Refusal α := .error (.usage e)

private def chosen {α : Type} [Choice α] (key : OptionKey) (value : String) :
    Except Refusal (Option α) :=
  match Choice.ofName? value with
  | some a => .ok (some a)
  | none => refuse (.unfitValue key value)

private def chosenPath (key : OptionKey) (value : String) : Except Refusal (Option Path) :=
  if value = "" then refuse (.unfitValue key value) else .ok (some (Path.ofString value))

private def chosenLength (key : OptionKey) (value : String) : Except Refusal (Option Nat) :=
  match number? value with
  | some 0 => refuse (.unfitNumber key value "Value must be greater than 0")
  | some n => .ok (some n)
  | none =>
    refuse (.unfitNumber key value ("'" ++ value ++ "' is not a valid positive integer"))

private def chosenLevel (key : OptionKey) (value : String) : Except Refusal (Option String) :=
  if logLevels.contains value then .ok (some value) else refuse (.unfitValue key value)

private def commaSeparated (value : String) : List String :=
  (Text.splitAt ',' value.toList).map String.ofList

/-- Sets an option to a value; for a switch the value does not count. -/
def OptionKey.set (key : OptionKey) (value : String) (o : Options) : Except Refusal Options :=
  match key with
  | .repo => .ok { o with repos := o.repos ++ commaSeparated value }
  | .noServer => .ok { o with noServer := true }
  | .configFile => do return { o with configFile := ← chosenPath key value }
  | .listenAddr => .ok { o with listenAddr := some value }
  | .environment => do return { o with environment := ← chosen key value }
  | .stagingDir => do return { o with stagingDir := ← chosenPath key value }
  | .expectedHost => .ok { o with expectedHost := some value }
  | .cloneBackend => do return { o with cloneBackend := ← chosen key value }
  | .folderNaming => do return { o with folderNaming := ← chosen key value }
  | .maxLineLength => do return { o with maxLineLength := ← chosenLength key value }
  | .exclude => .ok { o with exclude := o.exclude ++ commaSeparated value }
  | .reportFormat => do return { o with reportFormat := ← chosen key value }
  | .reportFile => do return { o with reportFile := ← chosenPath key value }
  | .diagramApiKey => .ok { o with diagramApiKey := some value }
  | .diagramBaseUrl => .ok { o with diagramBaseUrl := some value }
  | .diagramFolderId => .ok { o with diagramFolderId := some value }
  | .logLevel => do return { o with logLevel := ← chosenLevel key value }
  | .logFormat => do return { o with logFormat := ← chosen key value }
  | .logFile => do return { o with logFile := ← chosenPath key value }
  | .color => .ok { o with color := true }
  | .noColor => .ok { o with noColor := true }
  | .help => .error (.helpAsked true)
  | .version => .error (.versionAsked true)

/-- Whether an option may be given more than once. -/
def OptionKey.isRepeatable : OptionKey → Bool
  | .repo | .exclude => true
  | _ => false

/-- An option whose value is to follow, or has followed. -/
structure Waiting where
  key : OptionKey
  value : Option String
deriving DecidableEq, Repr

structure ParseState where
  options : Options
  given : List OptionKey
  waiting : Option Waiting
  /-- Two dashes have been read. -/
  closed : Bool
deriving DecidableEq, Repr

namespace ParseState

def start : ParseState := ⟨.unset, [], none, false⟩

/-- Carries an option out. -/
def apply (s : ParseState) (key : OptionKey) (value : String) : Except Refusal ParseState :=
  if s.given.contains key && !key.isRepeatable then refuse (.conflict key key)
  else (key.set value s.options).map fun options =>
    { s with options, given := s.given ++ [key] }

/-- Carries out the option that waits. -/
def settle (s : ParseState) : Except Refusal ParseState :=
  match s.waiting with
  | none => .ok s
  | some ⟨key, none⟩ => refuse (.missingValue key)
  | some ⟨key, some value⟩ => { s with waiting := none }.apply key value

/-- Carries out a switch, which may be one that asks for the help or the version. -/
def turnOn (s : ParseState) (key : OptionKey) (full : Bool) : Except Refusal ParseState := do
  let s ← s.settle
  match key with
  | .help => .error (.helpAsked full)
  | .version => .error (.versionAsked full)
  | _ => s.apply key ""

/-- An option that takes a value, which may be attached to it. -/
def take (s : ParseState) (key : OptionKey) (attached : Option String) :
    Except Refusal ParseState := do
  let s ← s.settle
  match attached with
  | some value => s.apply key value
  | none => return { s with waiting := some ⟨key, none⟩ }

def onLong (s : ParseState) (name : String) (value : Option String) :
    Except Refusal ParseState :=
  match specOfLong? name with
  | none => refuse (.unknownArgument ("--" ++ name))
  | some spec =>
    if spec.takesValue then s.take spec.key value
    else match value with
      | some _ => refuse (.unexpectedValue spec.key)
      | none => s.turnOn spec.key true

/-- Letters in turn. What follows the letter of an option that takes a value is the value,
less one sign in front of it. -/
def onShort (s : ParseState) : List Char → Except Refusal ParseState
  | [] => .ok s
  | c :: rest =>
    match specOfShort? c with
    | none => refuse (.unknownArgument (String.ofList ['-', c]))
    | some spec =>
      if spec.takesValue then
        s.take spec.key (match rest with
          | [] => none
          | '=' :: value => some (String.ofList value)
          | value => some (String.ofList value))
      else match s.turnOn spec.key false with
        | .error e => .error e
        | .ok s => s.onShort rest

/-- A text that is no option is the value of the option that waits for one. -/
def onPlain (s : ParseState) (text : String) : Except Refusal ParseState :=
  match s.waiting with
  | some ⟨key, none⟩ => .ok { s with waiting := some ⟨key, some text⟩ }
  | _ => refuse (.unknownArgument text)

def onArgument (s : ParseState) (argument : String) : Except Refusal ParseState :=
  if s.closed then refuse (.unknownArgument argument)
  else match Token.ofArgument argument with
    | .endOfOptions => .ok { s with closed := true }
    | .long name value => s.onLong name value
    | .short letters => s.onShort letters
    | .plain text => s.onPlain text

def onArguments (s : ParseState) : List String → Except Refusal ParseState
  | [] => .ok s
  | argument :: rest =>
    match s.onArgument argument with
    | .error e => .error e
    | .ok s => s.onArguments rest

/-- Looks an option up in the environment, unless it was given. -/
def onVariable (s : ParseState) (environment : List (String × String)) (spec : OptionSpec) :
    Except Refusal ParseState :=
  if s.given.contains spec.key then .ok s
  else match spec.standIn.bind fun v => environment.lookup v.name with
    | some value => s.apply spec.key value
    | none => .ok s

def onVariables (s : ParseState) (environment : List (String × String)) :
    List OptionSpec → Except Refusal ParseState
  | [] => .ok s
  | spec :: rest =>
    match s.onVariable environment spec with
    | .error e => .error e
    | .ok s => s.onVariables environment rest

end ParseState

/-- Reads a command line and the environment. -/
def parse (arguments : List String) (environment : List (String × String)) :
    Except Refusal Options := do
  let s ← ParseState.start.onArguments arguments
  let s ← s.settle
  let s ← s.onVariables environment optionSpecs
  if s.options.color && s.options.noColor then refuse (.conflict .color .noColor)
  else return s.options

end ImportWeights.CommandLine
