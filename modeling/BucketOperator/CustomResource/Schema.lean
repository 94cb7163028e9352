import BucketOperator.Json.Value

/-!
# Schemas of custom resources

What the fields of a resource may hold, and how the API server is told.
-/

namespace BucketOperator.CustomResource

/-- What is said of a value besides its form. -/
structure Label where
  title : Option String
  description : Option String
  isNullable : Bool
  default : Option Json

namespace Label

def none : Label := ⟨.none, .none, false, .none⟩

def describe (text : String) : Label := { none with description := some text }

def orNull (label : Label) : Label := { label with isNullable := true }

/-- The members of a schema that say this. -/
def members (label : Label) : List (String × Json) :=
  (label.default.map fun v => ("default", v)).toList ++
  (label.description.map fun t => ("description", Json.string t)).toList ++
  (if label.isNullable then [("nullable", .bool true)] else []) ++
  (label.title.map fun t => ("title", Json.string t)).toList

end Label

/-- The form of a value. -/
inductive Schema where
  | string (label : Label)
  | boolean (label : Label)
  | int32 (label : Label)
  | choice (label : Label) (options : List String)
  | array (label : Label) (items : Schema)
  | object (label : Label) (required : List String) (properties : List (String × Schema))

namespace Schema

/-- A schema of a type, with what is particular to it. -/
def typed (label : Label) (type : String) (members : List (String × Json)) : Json :=
  .ofMembers (("type", .string type) :: label.members ++ members)

mutual

/-- The document that states a schema. -/
def document : Schema → Json
  | .string label => typed label "string" []
  | .boolean label => typed label "boolean" []
  | .int32 label => typed label "integer" [("format", .string "int32")]
  | .choice label options => typed label "string" [("enum", .strings options)]
  | .array label items => typed label "array" [("items", items.document)]
  | .object label required properties =>
    typed label "object" <|
      ("properties", .ofMembers (documents properties)) ::
      (if required.isEmpty then [] else [("required", .strings required)])

def documents : List (String × Schema) → List (String × Json)
  | [] => []
  | (name, schema) :: rest => (name, schema.document) :: documents rest

end

end Schema

end BucketOperator.CustomResource
