import BucketOperator.Azure.Server
import BucketOperator.Simulation.Rule

/-!
# Simulated Azure

Rules pick requests by method and path. Without a rule Resource Manager is a store, and every other
host hands out a token.
-/

namespace BucketOperator.Simulation.Azure

open BucketOperator.Azure

/-- The answer of a rule. -/
structure Answer where
  response : Http.Response
  /-- Whether what was sent is stored. -/
  stores : Bool
  /-- Whether the connection is closed instead of an answer. -/
  drops : Bool

def managerHost : String := "management.azure.com"

/-- Whether a host may be talked to: any without encryption, else only those whose certificates
are trusted. -/
def isTrusted (url : Url) : Bool :=
  url.scheme == "http" ||
    url.scheme == "https" &&
      [some managerHost, some "login.microsoftonline.com"].contains url.host

/-- The document a request sends. -/
def sentDocument (request : Http.Request) : Json :=
  match request.payload with
  | some (.json value) => value
  | some (.form fields) => .string (Url.form fields)
  | none => .null

/-- The answer of a token endpoint. -/
def tokenAnswer : Http.Response :=
  Server.answered 200 (.object [("access_token", .string "fake-token")])

/-- The answer to a request, with the resources and the rules that are left. -/
def answer (request : Http.Request) (rules : List (Rule Answer)) (resources : Server.Resources) :
    Http.Reply × List (Rule Answer) × Server.Resources :=
  let path := request.url.path.render
  let sent := sentDocument request
  match Rule.pick request.method.name path rules with
  | (some found, left) =>
    let resources := if found.stores then resources.insert path sent else resources
    (if found.drops then none else some found.response, left, resources)
  | (none, left) =>
    if request.url.host = some managerHost then
      let (response, resources) := Server.answer request.method path sent resources
      (some response, left, resources)
    else (some tokenAnswer, left, resources)

end BucketOperator.Simulation.Azure
