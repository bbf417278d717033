import ImportWeights.Logging.Entry
import ImportWeights.Text.Ascii
import ImportWeights.Text.Pieces
import ImportWeights.Text.Trim

/-! Which entries are logged. A specification names a level for everything, or one for the
targets that begin with a name; of several names the longest counts. -/

namespace ImportWeights.Logging

/-- How urgent an entry has to be; `none` lets nothing through. -/
abbrev Threshold := Option Level

def Level.urgency : Level → Nat
  | error => 1
  | warn => 2
  | info => 3
  | debug => 4
  | trace => 5

def reaches (t : Threshold) (l : Level) : Bool :=
  match t with
  | none => false
  | some limit => l.urgency ≤ limit.urgency

def threshold? (s : String) : Option Threshold :=
  match String.ofList (s.toList.map Text.lowerAscii) with
  | "off" => some none
  | name => (Level.ofName? name).map some

/-- A level for the targets that begin with a name; the empty name is that of all. -/
structure TargetRule where
  target : String
  threshold : Threshold
deriving DecidableEq, Repr

structure LogFilter where
  rules : List TargetRule
deriving DecidableEq, Repr

/-- The faults of a specification, in order. -/
structure FilterError where
  faults : List String
deriving DecidableEq, Repr

def FilterError.message (e : FilterError) : String :=
  "Failed to parse log specification: " ++ "; ".intercalate e.faults

namespace LogFilter

private def blankFault (s : String) : Option String :=
  if s.toList.any Text.isBlank then
    some ("ignoring invalid part in log spec '" ++ s ++ "' (contains a whitespace)")
  else none

/-- The rule of one part, or what is wrong with it. -/
private def ruleOf (part : String) : Except String TargetRule :=
  let fields := (Text.splitAt '=' part.toList).map String.ofList
  match fields.map Text.trim with
  | [name] =>
    match blankFault name, threshold? name with
    | some fault, _ => .error fault
    | none, some t => .ok ⟨"", t⟩
    | none, none => .ok ⟨name, some .trace⟩
  | [name, level] =>
    match blankFault name, threshold? level with
    | some fault, _ => .error fault
    | none, some t => .ok ⟨name, t⟩
    | none, none =>
      if level = "" then .ok ⟨name, some .trace⟩ else .error ("unknown level filter: " ++ level)
  | _ => .error ("invalid part in log spec '" ++ part ++ "', ignoring it")

private def byLength (rules : List TargetRule) : List TargetRule :=
  rules.mergeSort fun a b => b.target.utf8ByteSize ≤ a.target.utf8ByteSize

/-- Reads a specification: parts between commas. -/
def parse (spec : String) : Except FilterError LogFilter :=
  let sections := Text.splitAt '/' spec.toList
  if 2 < sections.length then
    .error ⟨["invalid log spec '" ++ spec ++ "' (too many '/'s), ignoring it"]⟩
  else
    let parts := ((Text.splitAt ',' (sections.headD [])).map fun p => Text.trim (String.ofList p)).filter
      (· ≠ "")
    let results := parts.map ruleOf
    let faults := results.filterMap fun
      | .error fault => some fault
      | .ok _ => none
    if faults = [] then
      .ok ⟨byLength (results.filterMap fun
        | .ok rule => some rule
        | .error _ => none)⟩
    else .error ⟨faults⟩

/-- Whether entries of a level are logged for a target. -/
def allows (f : LogFilter) (level : Level) (target : String) : Bool :=
  match f.rules.find? fun r => r.target.toList.isPrefixOf target.toList with
  | some rule => reaches rule.threshold level
  | none => false

end LogFilter

end ImportWeights.Logging
