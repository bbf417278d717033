import ImportWeights.CommandLine.Spec

/-! The help: a short one with a line for each option, and a full one with a paragraph for
each. -/

namespace ImportWeights.CommandLine

def programName : String := "depweight"

private def intro : String :=
  "Clone Go repositories and map how often each package imports each path\n\n" ++
    "Usage: " ++ programName ++ " [OPTIONS]\n\nOptions:\n"

private def outro : String :=
  "\n * can be specified multiple times or as a comma-separated list\n"

/-- How an option is written, with room for the letter it may lack. -/
def OptionSpec.form (o : OptionSpec) : String :=
  (match o.short with
    | some c => "-" ++ c.toString ++ ", "
    | none => "    ") ++
  "--" ++ o.long ++
  (match o.valueName with
    | some name => " <" ++ name ++ ">"
    | none => "")

/-- What the help says of an option. Each form of the help points to the other one. -/
def OptionSpec.text (o : OptionSpec) (full : Bool) : String :=
  if o.key = .help then
    o.about ++ (if full then " (see a summary with '-h')" else " (see more with '--help')")
  else o.about

/-- The variable of an option and its value, in brackets. -/
def variableNote (environment : List (String × String)) (v : Variable) : String :=
  "[env: " ++ v.name ++
    (if v.isSecret then "" else "=" ++ (environment.lookup v.name).getD "") ++ "]"

def choicesNote (choices : List NamedValue) : String :=
  "[possible values: " ++ ", ".intercalate (choices.map (·.name)) ++ "]"

private def blanks (n : Nat) : String := String.ofList (List.replicate n ' ')

private def padded (width : Nat) (s : String) : String := s ++ blanks (width - s.length)

/-- The width of the widest text. -/
private def widest (texts : List String) : Nat := (texts.map (·.length)).foldl max 0

private def shortEntry (environment : List (String × String)) (width : Nat) (o : OptionSpec) :
    String :=
  let notes := (o.standIn.map (variableNote environment)).toList ++
    (if o.choices = [] then [] else [choicesNote o.choices])
  "  " ++ padded width o.form ++ "  " ++ " ".intercalate (o.text false :: notes) ++ "\n"

def shortHelp (environment : List (String × String)) : String :=
  let width := widest (optionSpecs.map (·.form))
  intro ++ String.join (optionSpecs.map (shortEntry environment width)) ++ outro

private def indented (s : String) : String := blanks 10 ++ s ++ "\n"

/-- The named values of an option, one on a line if there is something to say of them. -/
private def choiceLines (choices : List NamedValue) : String :=
  let width := widest (choices.map (·.name)) + 1
  "\n" ++ indented "Possible values:" ++ String.join (choices.map fun c =>
    indented ("- " ++ padded width (c.name ++ ":") ++ " " ++ c.about.getD ""))

private def fullEntry (environment : List (String × String)) (o : OptionSpec) : String :=
  let described := o.choices.any (·.about.isSome)
  let notes := (o.standIn.map (variableNote environment)).toList ++
    (if o.choices = [] || described then [] else [choicesNote o.choices])
  "  " ++ o.form ++ "\n" ++ indented (o.text true) ++
    (if notes = [] then "" else indented "" ++ String.join (notes.map indented)) ++
    (if described then choiceLines o.choices else "")

def fullHelp (environment : List (String × String)) : String :=
  intro ++ "\n".intercalate (optionSpecs.map (fullEntry environment)) ++ outro

def help (full : Bool) (environment : List (String × String)) : String :=
  if full then fullHelp environment else shortHelp environment

end ImportWeights.CommandLine
