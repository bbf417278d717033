import ImportWeights.Files.OsError

/-! Why a report did not get to where it was meant to go. -/

namespace ImportWeights.Report

inductive ReportError where
  | io (target : String) (cause : Files.OsError)
  | http (message : String)
  | status (code : Nat)
  | invalidResponse (message : String)
  | invalidBaseUrl (url message : String)
deriving DecidableEq, Repr

def ReportError.message : ReportError → String
  | io target cause => "Failed to write report to " ++ target ++ ": " ++ cause.message
  | http message => "Diagram service request failed: " ++ message
  | status code => "Diagram service answered with status " ++ toString code
  | invalidResponse message => "Diagram service returned an unexpected body: " ++ message
  | invalidBaseUrl url message => "Invalid diagram service URL '" ++ url ++ "': " ++ message

end ImportWeights.Report
