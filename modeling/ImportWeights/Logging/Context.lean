import ImportWeights.Logging.Entry

/-! Errors that may tell the user what to do, and the log lines they leave. -/

namespace ImportWeights.Logging

/-- An error with its text, its structure in full, whether the user can act on it, and the
hint for that. -/
class Contextual (ε : Type) where
  message : ε → String
  details : ε → String
  isActionable : ε → Bool
  userMessage? : ε → Option String

/-- The log lines of an error that ends an operation: the hint for the user if there is
one, and the details for whoever looks closer. -/
def errorInContext {ε : Type} [Contextual ε] (e : ε) (operation : String) : Log :=
  let fatal := "FATAL: " ++ operation
  let headline := match Contextual.userMessage? e with
    | some hint => if Contextual.isActionable e then error (.errors 30) (fatal ++ ": " ++ hint)
        else error (.errors 32) fatal
    | none => error (.errors 32) fatal
  [headline, debug (.errors 34) ("DETAIL: " ++ Contextual.message e),
    debug (.errors 35) ("DEBUG_DETAILS: " ++ Contextual.details e)]

end ImportWeights.Logging
