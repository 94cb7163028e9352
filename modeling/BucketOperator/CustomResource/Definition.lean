import BucketOperator.CustomResource.Schema

/-!
# Definitions of custom resources

How the API server is told about a kind: its names, its schema, and what is shown in a listing.
-/

namespace BucketOperator.CustomResource

/-- A column of a listing. -/
structure Column where
  name : String
  type : String
  description : Option String
  path : String

def Column.document (column : Column) : Json :=
  .ofMembers <|
    [("jsonPath", .string column.path), ("name", .string column.name),
      ("type", .string column.type)] ++
    (column.description.map fun t => ("description", Json.string t)).toList

/-- A kind of namespaced resources with one version and a status of its own. -/
structure Definition where
  group : String
  version : String
  kind : String
  singular : String
  plural : String
  shortNames : List String
  columns : List Column
  schema : Schema

/-- The document that states a definition. -/
def Definition.document (d : Definition) : Json :=
  .object [
    ("apiVersion", .string "apiextensions.k8s.io/v1"),
    ("kind", .string "CustomResourceDefinition"),
    ("metadata", .object [("name", .string (d.plural ++ "." ++ d.group))]),
    ("spec", .object [
      ("group", .string d.group),
      ("names", .object [
        ("categories", .array []),
        ("kind", .string d.kind),
        ("plural", .string d.plural),
        ("shortNames", .strings d.shortNames),
        ("singular", .string d.singular)]),
      ("scope", .string "Namespaced"),
      ("versions", .array [.object [
        ("additionalPrinterColumns", .array (d.columns.map Column.document)),
        ("name", .string d.version),
        ("schema", .object [("openAPIV3Schema", d.schema.document)]),
        ("served", .bool true),
        ("storage", .bool true),
        ("subresources", .object [("status", .object [])])]])])]

end BucketOperator.CustomResource
