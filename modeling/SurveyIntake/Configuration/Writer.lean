import SurveyIntake.Configuration.Basic
import SurveyIntake.Json.Printer

/-!
# SurveyIntake.Configuration.Writer

Writing configurations. What is absent or empty is left out, except that a field always has
`properties`. The constraints of a field stand beside its title, description and children.

* `Configuration.toJson` — a configuration as a value.
* `Configuration.text`   — a configuration as a document, its parts in the order of their declaration.
-/

namespace SurveyIntake

/-- A member that is there only if there is a value for it. -/
def optionalMember (name : String) : Option String → List (String × Json)
  | some x => [(name, .string x)]
  | none => []

namespace Field

/-- The members of `properties`. Where they are made an object, a constraint takes the place of what else
has its name. -/
def propertyMembers (title description : Option String) (children : List Json)
    (constraints : Table String Json) : List (String × Json) :=
  optionalMember "title" title ++ optionalMember "description" description ++
    (if children.isEmpty then [] else [("fields", .array children)]) ++ constraints.entries

mutual

def toJson : Field → Json
  | ⟨kind, title, description, children, constraints⟩ =>
    .ofMembers [("type", .string kind.name),
      ("properties", .ofMembers (propertyMembers title description (toJsonList children) constraints))]

def toJsonList : List Field → List Json
  | [] => []
  | f :: fs => toJson f :: toJsonList fs

end

mutual

/-- A field as it stands in a document. -/
def written : Field → Json
  | ⟨kind, title, description, children, constraints⟩ =>
    .object [("type", .string kind.name),
      ("properties", .object (propertyMembers title description (writtenAll children) constraints))]

def writtenAll : List Field → List Json
  | [] => []
  | f :: fs => written f :: writtenAll fs

end

end Field

namespace Configuration

/-- The members of a configuration with the given fields. -/
def documentMembers (c : Configuration) (fields : List Json) : List (String × Json) :=
  [("admin_name", .string c.adminName), ("survey_name", .string c.surveyName)] ++
    optionalMember "title" c.title ++ optionalMember "identity_pattern" c.identityPattern ++
    [("fields", .array fields)]

def toJson (c : Configuration) : Json := .ofMembers (c.documentMembers (Field.toJsonList c.fields))

/-- A configuration as it stands in a document. -/
def written (c : Configuration) : Json := .object (c.documentMembers (Field.writtenAll c.fields))

def text (c : Configuration) : String := c.written.render

end Configuration
end SurveyIntake
