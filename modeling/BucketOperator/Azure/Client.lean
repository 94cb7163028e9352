import BucketOperator.Azure.Api
import BucketOperator.Azure.Credential
import BucketOperator.Retry

/-!
# The client of Resource Manager

Requests carry a token that is acquired on first use and kept from then on. Throttled requests are
repeated, and long-running operations are followed to their end.
-/

namespace BucketOperator.Azure

/-- A client of Resource Manager. -/
structure Client where
  base : Url
  credential : Credential
  /-- How requests are repeated. -/
  retries : Backoff
  /-- How operations are polled. -/
  polls : Backoff
  /-- How many attempts or polls a run may take. -/
  patience : Nat

/-- A computation with the token of a client, once it has one. A failure keeps the token. -/
abbrev Session := ExceptT Failure (StateT (Option String) (Program World))

namespace Session

def ofWorld {α : Type} (program : Program World α) : Session α :=
  ExceptT.mk (StateT.mk fun token => do return (.ok (← program), token))

/-- Run a computation that may fail. -/
def ofOutcome {α : Type} (program : Program World (Except Failure α)) : Session α :=
  ExceptT.mk (StateT.mk fun token => do return (← program, token))

end Session

namespace Client

variable (client : Client)

/-- The URL of a resource. -/
def resourceUrl (base : Url) (path version : String) : Except Failure Url :=
  ((base.join path).mapError fun e => Failure.invalidUrl e.message).map fun url =>
    url.appendQuery "api-version" version

/-- The token of the client. -/
def bearer : Session String := do
  match ← get with
  | some token => return token
  | none =>
    let token ← Session.ofOutcome client.credential.token
    set (some token)
    return token

/-- Send a request once. -/
def attempt (token : String) (request : Http.Request) :
    Program World (Except Failure Http.Response) :=
  let value := "Bearer " ++ token
  if Http.isHeaderValue value then do
    match ← World.http { request with headers := ("authorization", value) :: request.headers } with
    | some response => return .ok response
    | none => return .error .transport
  else return .error .transport

/-- Whether an answer asks for another attempt. -/
def asksAgain : Except Failure Http.Response → Bool
  | .ok response => Http.isRetryable response.status
  | .error _ => false

/-- Send a request with the token, again while the answer asks for it. -/
def send (request : Http.Request) : Session Http.Response := do
  let token ← client.bearer
  let response ← Session.ofOutcome <|
    Retry.inWorld (attempt token request) (Retry.persist client.patience asksAgain client.retries)
  if response.isSuccess then return response else throw (failureOf response)

/-- Send a request for a resource. -/
def sendFor (method : Http.Method) (path version : String) (payload : Option Http.Payload) :
    Session Http.Response := do
  let url ← (resourceUrl client.base path version : Except Failure Url)
  client.send ⟨method, url, [], payload⟩

def getResource (path version : String) : Session Json := do
  let response ← client.sendFor .get path version none
  (bodyOf response : Except Failure Json)

/-! ### Long-running operations -/

/-- What a poll tells: the operation has ended well, or goes on. -/
inductive Progress where
  | ended
  | running
  deriving DecidableEq

/-- Ask for the status of an operation. -/
def pollStatus (url : Url) : Session Progress := do
  let response ← client.send ⟨.get, url, [], none⟩
  match (Json.Tree.parse? response.body).bind OperationStatus.read with
  | none => throw .transport
  | some operation =>
    if operation.status = "Succeeded" then return .ended
    else if operation.status = "Failed" ∨ operation.status = "Canceled" then
      throw (.operation operation.status ((operation.error.map (·.message)).getD ""))
    else return .running

/-- Ask for the result of an operation. -/
def pollLocation (url : Url) : Session Progress := do
  let response ← client.send ⟨.get, url, [], none⟩
  return if response.status = 202 then .running else .ended

/-- Poll until the operation has ended or the backoff, started at `start`, is spent. -/
def pollFrom (url : Url) (poll : Session Progress) (start : Nat) : Nat → Backoff → Session Unit
  | 0, _ => ExceptT.mk (StateT.mk fun _ => .cut)
  | patience + 1, backoff => do
    match ← poll with
    | .ended => return ()
    | .running =>
      let now ← Session.ofWorld World.clock
      if backoff.isSpent (now - start) then throw (.pollTimeout url.render)
      else
        match backoff.advance? with
        | none => ExceptT.mk (StateT.mk fun _ => .cut)
        | some next =>
          Session.ofWorld (World.sleep backoff.current)
          pollFrom url poll start patience next

/-- Follow an operation to its end. -/
def follow (operation : Operation.Follow) : Session Unit := do
  let start ← Session.ofWorld World.clock
  match operation with
  | .status url => pollFrom url (client.pollStatus url) start client.patience client.polls
  | .location url => pollFrom url (client.pollLocation url) start client.patience client.polls

/-! ### Resources -/

/-- Create or replace a resource. When that starts an operation, the resource is read again after
its end. -/
def putResource (path version : String) (body : Json) : Session Json := do
  let response ← client.sendFor .put path version (some (.json body))
  let operation ←
    if response.status = 201 ∨ response.status = 202 then
      (startedOperation? response : Except Failure (Option Operation.Follow))
    else pure none
  match operation with
  | some operation =>
    client.follow operation
    client.getResource path version
  | none => (bodyOf response : Except Failure Json)

/-- Invoke an action of a resource. -/
def postResource (path version : String) : Session Json := do
  let response ← client.sendFor .post path version (some (.json (.object [])))
  (bodyOf response : Except Failure Json)

/-- Delete a resource. -/
def deleteResource (path version : String) : Session Unit := do
  let response ← client.sendFor .delete path version none
  if response.status = 202 then
    match ← (startedOperation? response : Except Failure (Option Operation.Follow)) with
    | some operation => client.follow operation
    | none => return ()

end Client

end BucketOperator.Azure
