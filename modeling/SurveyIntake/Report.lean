import SurveyIntake.Json.Value

/-!
# SurveyIntake.Report

Reports: what is wrong with a submission.

* `Violation`      — a message about the node of a submission at a path.
* `Report`         — violations in the order of their discovery.
* `Report.forPath` — the messages for one path.
* `Report.byPath`  — all messages, grouped by path.
* `Report.message` — the report on one line.
-/

namespace SurveyIntake

structure Violation where
  path : String
  message : String
  deriving DecidableEq

namespace Violation

def text (v : Violation) : String := v.path ++ ": " ++ v.message

def toJson (v : Violation) : Json :=
  .ofMembers [("path", .string v.path), ("message", .string v.message)]

end Violation

abbrev Report := List Violation

namespace Report

def forPath (path : String) (r : Report) : List String :=
  (r.filter fun v => v.path == path).map Violation.message

/-- Puts a violation after those of its path. -/
def file (groups : Table String (List String)) (v : Violation) : Table String (List String) :=
  groups.insert v.path ((groups.find? v.path).getD [] ++ [v.message])

def byPath (r : Report) : Table String (List String) := r.foldl file .empty

def message (r : Report) : String :=
  toString r.length ++ " field violation(s): " ++ "; ".intercalate (r.map Violation.text)

/-- The messages by path, as they are handed back to a submitter. -/
def toJson (r : Report) : Json :=
  .object (r.byPath.entries.map fun g => (g.1, .array (g.2.map .string)))

end Report
end SurveyIntake
