/-! A job: one checkout that is ready to be scanned. -/

namespace ImportWeights.Jobs

/-- `folder` names the checkout below the staging directory; `sequence` is the job's place
in the order of arrival. -/
structure Job where
  folder : String
  url : String
  sequence : Nat
deriving DecidableEq, Repr

def Job.display (j : Job) : String := "#" ++ toString j.sequence ++ " " ++ j.folder

end ImportWeights.Jobs
