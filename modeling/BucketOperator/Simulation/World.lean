import BucketOperator.Json.Printer
import BucketOperator.Kubernetes.Server
import BucketOperator.Metrics.Registry
import BucketOperator.Simulation.Aws
import BucketOperator.Simulation.Azure
import BucketOperator.World

/-!
# A simulated world

Services that answer from a state, a clock that only sleeping moves, and a log of what they were
asked. How much of a budget has passed is measured by another clock, which stands still.
-/

namespace BucketOperator.Simulation

/-- What a service was asked. -/
inductive Entry where
  /-- The time is that since the start. -/
  | kubernetes (time : Nat) (request : Kubernetes.Request)
  | http (request : Http.Request)
  | s3 (session : BucketOperator.Aws.Session) (call : BucketOperator.Aws.S3Call)
  | iam (session : BucketOperator.Aws.Session) (call : BucketOperator.Aws.IamCall)

/-- The session of an entry that is about AWS. -/
def Entry.session? : Entry → Option BucketOperator.Aws.Session
  | .s3 session _ => some session
  | .iam session _ => some session
  | _ => none

structure State where
  objects : Kubernetes.Server.Objects
  faults : List (Rule Kubernetes.Reply)
  resources : BucketOperator.Azure.Server.Resources
  azureRules : List (Rule Azure.Answer)
  awsRules : List (Rule Aws.Answer)
  /-- Whether the services of the clouds can be reached. -/
  isCloudReachable : Bool
  files : List (String × String)
  registry : Metrics.Registry
  /-- How long was slept since the start. -/
  elapsed : Nat
  /-- What was asked, the last first. -/
  log : List Entry

namespace State

/-- A world in which there is nothing and the clouds are out of reach. -/
def empty : State where
  objects := .empty
  faults := []
  resources := .empty
  azureRules := []
  awsRules := []
  isCloudReachable := false
  files := []
  registry := .empty
  elapsed := 0
  log := []

/-- The log of what was asked since an earlier state, in order. -/
def logSince (now before : State) : List Entry :=
  (now.log.take (now.log.length - before.log.length)).reverse

/-- The AWS sessions that were used, each once. -/
def sessions (s : State) : List BucketOperator.Aws.Session :=
  (s.log.reverse.filterMap Entry.session?).eraseDups

def note (entry : Entry) (s : State) : State := { s with log := entry :: s.log }

end State

/-- A reply as it comes over the wire. -/
def overWire : Kubernetes.Reply → Kubernetes.Reply
  | .answered status (.json value) => .answered status (.text value.render)
  | reply => reply

/-- Why a file cannot be read. -/
def missingFile : String := "No such file or directory (os error 2)"

/-- Answer a request to the Kubernetes API. -/
def serveKubernetes (request : Kubernetes.Request) (s : State) : Kubernetes.Reply × State :=
  let s := s.note (.kubernetes s.elapsed request)
  match Rule.pick request.action.method request.path s.faults with
  | (some reply, left) => (overWire reply, { s with faults := left })
  | (none, left) =>
    let (reply, objects) := Kubernetes.Server.answer request s.objects
    (overWire reply, { s with faults := left, objects })

/-- Answer a request to Azure. -/
def serveHttp (request : Http.Request) (s : State) : Http.Reply × State :=
  if s.isCloudReachable && Azure.isTrusted request.url then
    let (reply, azureRules, resources) := Azure.answer request s.azureRules s.resources
    (reply, { s.note (.http request) with azureRules, resources })
  else (none, s)

/-- Answer a call to AWS by name. -/
def serveAws (entry : Entry) (name : String) (s : State) : Aws.Answer × State :=
  if s.isCloudReachable then
    let (answer, awsRules) := Aws.answer name s.awsRules
    (answer, { s.note entry with awsRules })
  else (.error .dispatch, s)

/-- Answer a call. -/
def serve : (c : World.Call) → State → c.Answer × State
  | .kubernetes request, s => serveKubernetes request s
  | .http request, s => serveHttp request s
  | .s3 session call, s =>
    let (answer, s) := serveAws (.s3 session call) call.operation.name s
    (answer.map fun output => Aws.s3Output output call.operation, s)
  | .iam session call, s =>
    let (answer, s) := serveAws (.iam session call) call.name s
    (answer.map fun output => Aws.iamOutput output call, s)
  | .sleep duration, s => ((), { s with elapsed := s.elapsed + duration })
  | .clock, s => ((0 : Nat), s)
  | .readFile path, s =>
    ((match s.files.lookup path with
      | some content => .ok content
      | none => .error missingFile : Except String String), s)
  | .record event, s => ((), { s with registry := s.registry.record event })

/-- Run a program in a simulated world; a run that was cut has no result. -/
def run {α : Type} (program : Program World α) (s : State) : Option α × State :=
  program.run serve s

end BucketOperator.Simulation
