import BucketOperator.Json.Value
import BucketOperator.Url.Parser

/-!
# HTTP messages

Requests to Resource Manager, Azure AD and the instance metadata service, and their answers.
-/

namespace BucketOperator.Http

inductive Method where
  | get
  | put
  | post
  | delete
  deriving DecidableEq, Repr

def Method.name : Method → String
  | .get => "GET"
  | .put => "PUT"
  | .post => "POST"
  | .delete => "DELETE"

/-- What a request carries. -/
inductive Payload where
  | json (value : Json)
  | form (fields : List (String × String))

structure Request where
  method : Method
  url : Url
  headers : List (String × String)
  payload : Option Payload

/-- An answer; header names are in lower case. -/
structure Response where
  status : Nat
  headers : List (String × String)
  body : String
  deriving Inhabited

/-- An answer, or nothing when the connection failed. -/
abbrev Reply := Option Response

/-- Whether a text may be the value of a header. -/
def isHeaderValue (text : String) : Bool :=
  text.toList.all fun c => c == '\t' || (0x20 ≤ c.toNat && c.toNat != 0x7F)

/-- Whether a header value is plain visible text. -/
def isVisible (text : String) : Bool :=
  text.toList.all fun c => c == '\t' || (0x20 ≤ c.toNat && c.toNat < 0x7F)

namespace Response

/-- The text of a header, unless it is missing, empty or not plain. -/
def header? (r : Response) (name : String) : Option String :=
  (r.headers.lookup name).filter fun value => isVisible value && value ≠ ""

def isSuccess (r : Response) : Bool := 200 ≤ r.status && r.status < 300

end Response

/-- Whether a status tells of a passing trouble, so that the request is worth repeating. -/
def isRetryable (status : Nat) : Bool := [429, 500, 502, 503, 504].contains status

end BucketOperator.Http
