/-! What one source file contributes: its package name and the raw text of its import
lines. A record exists only for a file whose import block was closed. -/

namespace ImportWeights.Source

structure PackageRecord where
  name : String
  imports : List String
deriving DecidableEq, Repr

/-- The one-line form of a record, as the log shows it. -/
def PackageRecord.display (r : PackageRecord) : String :=
  "Package (" ++ r.name ++ ") imports (" ++ " | ".intercalate r.imports ++ ")"

/-- How reading one file ends. -/
inductive Outcome where
  /-- An import block was opened and closed. -/
  | complete (record : PackageRecord)
  /-- An import block was opened, and the file ended inside it. -/
  | unterminated (package : String) (imports : Nat)
  | noImportBlock
deriving DecidableEq, Repr

end ImportWeights.Source
