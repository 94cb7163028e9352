import BucketOperator.Azure.AccessSecret
import BucketOperator.Azure.Client
import BucketOperator.Azure.Storage

/-!
# Serving the Azure adapter

The calls of the adapter are made by one client of Resource Manager, which the adapters of a
reconciliation share, and by the Kubernetes API.
-/

namespace BucketOperator.Azure

/-- Run a session from a token, if there is one yet. -/
def Session.runFrom {α : Type} (session : Session α) (token : Option String) :
    Program World (Except Failure α × Option String) :=
  (ExceptT.run session).run token

/-- How a call is made by a client that may already have a token. -/
def Call.serve (client : Client) :
    (c : Call) → Option String → Program World (c.Answer × Option String)
  | .get path version, token => (client.getResource path version).runFrom token
  | .put path version body, token => (client.putResource path version body).runFrom token
  | .post path version, token => (client.postResource path version).runFrom token
  | .delete path version, token => (client.deleteResource path version).runFrom token
  | .applySecret namespaceName name accountName accountKey, token => do
    return (← AccessSecret.apply namespaceName name accountName accountKey, token)
  | .deleteSecret namespaceName name, token => do
    return (← AccessSecret.remove client.patience namespaceName name, token)

/-- Run an operation from a token, if there is one yet. -/
def Operation.runFrom {α : Type} (client : Client) (operation : Operation α)
    (token : Option String) : Program World (Except BucketOperator.Failure α × Option String) :=
  (ExceptT.run operation).interpret (Call.serve client) token

/-- The client of a reconciliation. -/
def Client.of (cluster : AzureContext) (credential : Credential) (patience : Nat) :
    Except BucketOperator.Failure Client :=
  match Url.parse managerEndpoint with
  | .ok base => .ok ⟨base, credential, Backoff.forCalls, Backoff.forPolls, patience⟩
  | .error e => .error (.resolution cluster.name e.message)

end BucketOperator.Azure
