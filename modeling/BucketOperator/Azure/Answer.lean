import BucketOperator.Failure
import BucketOperator.Http.Message
import BucketOperator.Json.Reading

/-!
# Answers of Azure services

How answers of Resource Manager, Azure AD and the instance metadata service are read.
-/

namespace BucketOperator.Azure

open Json

/-- The detail of an error: a code and a message, either of which may be missing. -/
structure ErrorDetail where
  code : String
  message : String
  deriving DecidableEq, Repr, Inhabited

def ErrorDetail.read (tree : Tree) : Option ErrorDetail := do
  let fields ← tree.closedFields? ["code", "message"]
  return {
    code := ← fields.orElse "code" "" Tree.readString
    message := ← fields.orElse "message" "" Tree.readString }

/-- The detail in an envelope of Resource Manager. -/
def readManagerError (tree : Tree) : Option ErrorDetail := do
  guard (tree matches .object _)
  let fields ← tree.closedFields? ["error"]
  fields.required "error" ErrorDetail.read

/-- The detail in an envelope of Azure AD. -/
def readDirectoryError (tree : Tree) : Option ErrorDetail := do
  guard (tree matches .object _)
  let fields ← tree.closedFields? ["error", "error_description"]
  return {
    code := ← fields.required "error" Tree.readString
    message := ← fields.orElse "error_description" "" Tree.readString }

/-- The detail of an error body; a body of another form is the message of an unknown error. -/
def errorDetail (body : String) : ErrorDetail :=
  match (Tree.parse? body).filter fun tree => tree.json?.isSome with
  | some tree => ((readManagerError tree).or (readDirectoryError tree)).getD ⟨"Unknown", body⟩
  | none => ⟨"Unknown", body⟩

/-- The failure an answer without success stands for. -/
def failureOf (response : Http.Response) : Failure :=
  let detail := errorDetail response.body
  .status response.status detail.code detail.message

/-- The body of a success; an empty one is null. -/
def bodyOf (response : Http.Response) : Except Failure Json :=
  if response.body = "" then .ok .null
  else
    match Json.parse? response.body with
    | some value => .ok value
    | none => .error .undecodable

/-- The token in an answer of a token endpoint. -/
def readToken (tree : Tree) : Option String := do
  let fields ← tree.closedFields? ["access_token"]
  fields.required "access_token" Tree.readString

/-- The state of a long-running operation. -/
structure OperationStatus where
  status : String
  error : Option ErrorDetail
  deriving DecidableEq, Repr

def OperationStatus.read (tree : Tree) : Option OperationStatus := do
  let fields ← tree.closedFields? ["status", "error"]
  return {
    status := ← fields.required "status" Tree.readString
    error := ← fields.optional "error" ErrorDetail.read }

/-- How to follow a long-running operation: by its status, or by the place of its result. -/
inductive Operation.Follow where
  | status (url : Url)
  | location (url : Url)

/-- Read a URL in an answer. -/
def parseUrl (text : String) : Except Failure Url :=
  (Url.parse text).mapError fun e => .invalidUrl e.message

/-- The operation an answer has started, if any. A location starts one only when the answer is
"accepted". -/
def startedOperation? (response : Http.Response) : Except Failure (Option Operation.Follow) :=
  match response.header? "azure-asyncoperation", response.header? "location" with
  | some url, _ => do return some (.status (← parseUrl url))
  | none, some url => do
    if response.status = 202 then return some (.location (← parseUrl url)) else return none
  | none, none => return none

end BucketOperator.Azure
