import SurveyIntake.Decimal.Shortest
import SurveyIntake.Text.Quoted

/-!
# SurveyIntake.Json.ReadError

Why a text cannot be read as a JSON document of a given shape.

* `Found`     — what stands where something else is expected.
* `Mismatch`  — a document whose shape is not the expected one, with its wording.
* `ReadError` — the text ends too early, is not JSON, or has another shape.
-/

namespace SurveyIntake
namespace Json

inductive Found where
  | null
  | bool (value : Bool)
  | integer (value : Int)
  | real (value : Binary64)
  | string (value : String)
  | sequence
  | map

def Found.wording : Found → String
  | .null => "null"
  | .bool b => "boolean `" ++ toString b ++ "`"
  | .integer i => "integer `" ++ toString i ++ "`"
  | .real x => "floating point `" ++ x.text ++ "`"
  | .string s => "string " ++ Text.quoted s
  | .sequence => "sequence"
  | .map => "map"

inductive Mismatch where
  | wrongType (found : Found) (expected : String)
  | wrongLength (length : Nat) (expected : String)
  | missing (name : String)
  | duplicate (name : String)
  | unknownVariant (name : String) (known : List String)
  | refused (reason : String)

def Mismatch.message : Mismatch → String
  | .wrongType found expected => "invalid type: " ++ found.wording ++ ", expected " ++ expected
  | .wrongLength n expected => "invalid length " ++ toString n ++ ", expected " ++ expected
  | .missing name => "missing field `" ++ name ++ "`"
  | .duplicate name => "duplicate field `" ++ name ++ "`"
  | .unknownVariant name known =>
    "unknown variant `" ++ name ++ "`, expected one of " ++
      ", ".intercalate (known.map fun k => "`" ++ k ++ "`")
  | .refused reason => reason

inductive ReadError where
  | unfinished
  | malformed
  | mismatch (mismatch : Mismatch)

end Json
end SurveyIntake
