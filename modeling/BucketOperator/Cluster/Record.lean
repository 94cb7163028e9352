import BucketOperator.Json.Printer
import BucketOperator.Text.Quoted
import BucketOperator.Cluster.Management

/-!
# Infrastructure records

How fields are taken from the records that describe a cluster. A field that is missing, empty or
of the wrong kind is a resolution failure that names the field and the record.
-/

namespace BucketOperator.Cluster

open Json

/-- The string at a path of a record. -/
def nestedString? (record : Json) (path : List String) : Option String :=
  (record.path? path).bind Json.string?

/-- How a path is written. -/
def pathText (path : List String) : String := ".".intercalate path

/-- The string at a path, which must be there and not empty. -/
def requiredString (cluster description : String) (record : Json) (path : List String) :
    Except Failure String :=
  match nestedString? record path with
  | some "" => missing
  | some s => .ok s
  | none => missing
where
  missing :=
    .error (.resolution cluster
      s!"missing or incorrect {pathText path} in {description}")

/-- How a value is named in a message about its kind. -/
def kindOf : Json → String
  | .null => "null"
  | .bool b => s!"boolean {tick}{b}{tick}"
  | .number (.integer n) => s!"integer {tick}{n}{tick}"
  | .number (.float x) => s!"floating point {tick}{Number.render (.float x)}{tick}"
  | .string s => s!"string {Text.quoted s}"
  | .array _ => "sequence"
  | .object _ => "map"
where
  tick : String := String.singleton (Char.ofNat 0x60)

/-- The members of an object of strings; the first value of another kind is reported. -/
def stringEntries : List (String × Json) → Except String (List (String × String))
  | [] => .ok []
  | (key, .string value) :: rest => do return (key, value) :: (← stringEntries rest)
  | (_, value) :: _ => .error s!"invalid type: {kindOf value}, expected a string"

/-- A map of strings. -/
def stringMap : Json → Except String (StringMap String)
  | .object members => (stringEntries members).map .ofList
  | value => .error s!"invalid type: {kindOf value}, expected a map"

/-- The map of strings at a path; a missing one and null are empty. -/
def nestedStringMap (cluster description : String) (record : Json) (path : List String) :
    Except Failure (StringMap String) :=
  match record.path? path with
  | none => .ok .empty
  | some .null => .ok .empty
  | some value =>
    match stringMap value with
    | .ok m => .ok m
    | .error reason =>
      .error (.resolution cluster s!"malformed {pathText path} in {description}: {reason}")

end BucketOperator.Cluster
