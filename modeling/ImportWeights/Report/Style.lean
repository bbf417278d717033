/-! Colors by role. Painting adds escape sequences around a text and nothing else. -/

namespace ImportWeights.Report

inductive StyleRole where
  | header
  | edge
  | weight
  | dim
  | literal
  | placeholder
  | valid
  | invalid
  | error
deriving DecidableEq, Repr

/-- The number of a role's color; a role without one is never painted. -/
def StyleRole.code? : StyleRole → Option String
  | header => some "33"
  | edge => some "92"
  | weight => none
  | dim => some "90"
  | literal => some "36"
  | placeholder => some "32"
  | valid => some "32"
  | invalid => some "31"
  | error => some "91"

/-- The sequence that switches to a color, or with `0` back to none. -/
def escapeSequence (code : String) : String := "\x1b[" ++ code ++ "m"

/-- A text between the switch to a color and the switch back. -/
def colored (code text : String) : String :=
  escapeSequence code ++ text ++ escapeSequence "0"

def StyleRole.paint (r : StyleRole) (text : String) (enabled : Bool) : String :=
  match r.code? with
  | some code => if enabled then colored code text else text
  | none => text

end ImportWeights.Report
