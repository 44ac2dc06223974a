import SurveyIntake.Configuration.Basic
import SurveyIntake.Form.Basic

/-!
# SurveyIntake.Form.Compile

From configurations to forms.

* `ConfigurationError`    — what makes a configuration unusable, with its wording.
* `Field.compile`         — the item of a field at a position.
* `Configuration.compile` — the form of a configuration.

The first fault is reported: the key, then the identity pattern, then the fields, a field before its
children. At a field, children that its kind asks for or forbids come first, then its constraints in
ascending order of their names, then bounds that are the wrong way round.
-/

namespace SurveyIntake

inductive ConfigurationError where
  | document (cause : Json.ReadError)
  | surveyKey (cause : KeyError)
  | identityPattern (source : String)
  | missingChildren (path : String) (kind : Kind)
  | unexpectedChildren (path : String) (kind : Kind)
  | unknownConstraint (path : String) (name : String) (kind : Kind)
  | invalidConstraint (path : String) (name : String) (fault : ValueFault)
  | invertedBounds (path : String) (min max : Constraint) (least most : Nat)

/-- The message of an error, without what a reader of documents or of patterns has to add. -/
def ConfigurationError.message : ConfigurationError → String
  | .document _ => "Invalid configuration document"
  | .surveyKey cause => "Invalid survey key: " ++ cause.message
  | .identityPattern source => "Invalid identity pattern '" ++ source ++ "'"
  | .missingChildren path kind => "Field " ++ path ++ ": " ++ kind.name ++ " field declares no child fields"
  | .unexpectedChildren path kind =>
    "Field " ++ path ++ ": " ++ kind.name ++ " field cannot declare child fields"
  | .unknownConstraint path name kind =>
    "Field " ++ path ++ ": unknown constraint '" ++ name ++ "' for " ++ kind.name ++ " field"
  | .invalidConstraint path name fault =>
    "Field " ++ path ++ ": constraint '" ++ name ++ "' " ++ fault.message
  | .invertedBounds path min max least most =>
    "Field " ++ path ++ ": " ++ min.name ++ " (" ++ toString least ++ ") exceeds " ++ max.name ++
      " (" ++ toString most ++ ")"

/-- The rule of a constraint that a field declares. -/
def Rule.declared (path : String) (kind : Kind) (name : String) (value : Json) :
    Except ConfigurationError Rule :=
  match (Constraint.ofName? name).filter fun c => c.appliesTo kind with
  | none => .error (.unknownConstraint path name kind)
  | some c =>
    match Rule.ofValue c value with
    | .error fault => .error (.invalidConstraint path name fault)
    | .ok r => .ok r

/-- The rules of all constraints, in their order. -/
def Rule.declaredAll (path : String) (kind : Kind) :
    List (String × Json) → Except ConfigurationError (List Rule)
  | [] => .ok []
  | (name, value) :: rest =>
    match Rule.declared path kind name value with
    | .error e => .error e
    | .ok r =>
      match Rule.declaredAll path kind rest with
      | .error e => .error e
      | .ok rs => .ok (r :: rs)

/-- The error of a least value above a greatest one. -/
def Rule.inverted? (path : String) (min max : Constraint) (rules : List Rule) :
    Option ConfigurationError :=
  match rules.findSome? (Rule.boundOf? min), rules.findSome? (Rule.boundOf? max) with
  | some least, some most =>
    if most < least then some (.invertedBounds path min max least most) else none
  | _, _ => none

def Rule.isPattern : Rule → Bool
  | .pattern _ => true
  | _ => false

/-- The rules of a field: those it declares, and the pattern of addresses where an address is asked for
without a pattern. -/
def Field.rules (path : String) (kind : Kind) (constraints : Table String Json) :
    Except ConfigurationError (List Rule) :=
  match Rule.declaredAll path kind constraints.entries with
  | .error e => .error e
  | .ok rules =>
    match (Rule.inverted? path .minChars .maxChars rules).or
        (Rule.inverted? path .minSelect .maxSelect rules) with
    | some e => .error e
    | none =>
      if kind = .email ∧ !rules.any Rule.isPattern then .ok (rules ++ [.pattern addressPattern])
      else .ok rules

mutual

def Field.compile (position : Nat) (parent : Option String) :
    Field → Except ConfigurationError Item
  | ⟨kind, _, _, children, constraints⟩ =>
    let path := memberPath parent (toString position)
    if kind.isComposite ∧ children.isEmpty then .error (.missingChildren path kind)
    else if !kind.isComposite ∧ !children.isEmpty then .error (.unexpectedChildren path kind)
    else
      match Field.rules path kind constraints with
      | .error e => .error e
      | .ok rules =>
        match Field.compileAll 1 (some path) children with
        | .error e => .error e
        | .ok items => .ok ⟨position, path, kind, rules, items⟩

/-- The items of fields at a position and the ones after it. -/
def Field.compileAll (position : Nat) (parent : Option String) :
    List Field → Except ConfigurationError (List Item)
  | [] => .ok []
  | f :: fs =>
    match Field.compile position parent f with
    | .error e => .error e
    | .ok item =>
      match Field.compileAll (position + 1) parent fs with
      | .error e => .error e
      | .ok items => .ok (item :: items)

end

namespace Configuration

/-- The pattern of identities: that of addresses where none is declared. -/
def identity (c : Configuration) : Except ConfigurationError Pattern :=
  match c.identityPattern with
  | none => .ok addressPattern
  | some source =>
    match Pattern.ofSource? source with
    | some p => .ok p
    | none => .error (.identityPattern source)

def compile (c : Configuration) : Except ConfigurationError Form :=
  match c.key with
  | .error e => .error (.surveyKey e)
  | .ok key =>
    match c.identity with
    | .error e => .error e
    | .ok identity =>
      match Field.compileAll 1 none c.fields with
      | .error e => .error e
      | .ok items => .ok ⟨key, identity, items⟩

end Configuration
end SurveyIntake
