/-!
# Faults of YAML texts
-/

namespace RouteDoc.Yaml

inductive Fault where
  /-- The text is no YAML, or uses a tag that is not known. -/
  | malformed
  /-- There is no such number, day or time. -/
  | noSuchValue
  /-- There is no such character by far. -/
  | codeTooLarge
  /-- A number has no digits. -/
  | emptyNumber
  /-- A word stands for neither truth nor falsity. -/
  | noTruthValue
  /-- A text marked as a timestamp is not spelled like one. -/
  | noTimestamp
  /-- A collection is marked as a timestamp. -/
  | noText
  /-- A scalar is the value of itself. -/
  | endless
  deriving DecidableEq, Inhabited

end RouteDoc.Yaml
