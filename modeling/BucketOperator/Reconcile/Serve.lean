import BucketOperator.Aws.AccessRole
import BucketOperator.Azure.Serve
import BucketOperator.Bucket.Store
import BucketOperator.Cluster.Resolver
import BucketOperator.Reconcile.Engine

/-!
# Serving reconciliations

How the collaborators of a reconciliation work in the world: records come from the Kubernetes API,
and the adapters are those of the resolved cluster, with the credentials of its identity.
-/

namespace BucketOperator.Reconcile

/-- What an operator is started with. -/
structure Settings where
  cluster : ManagementCluster
  /-- Where the projected service account token is, if anywhere. -/
  tokenFile : Option String
  /-- How many attempts, polls or pages a loop may take before the run is cut. -/
  patience : Nat

/-- The adapters of a cluster. Those of Azure share a client and its token. -/
inductive Services where
  | aws (cluster : AwsContext) (session : Aws.Session)
  | azure (cluster : AzureContext) (client : Azure.Client) (token : Option String)

namespace Services

/-- The session in which AWS is called: the cluster's role, under the operator's name. -/
def awsSession (cluster : AwsContext) : Aws.Session :=
  ⟨cluster.region, cluster.roleArn, "object-storage-operator"⟩

/-- The adapters of a resolved cluster. -/
def of (tokenFile : Option String) (patience : Nat) : ClusterContext → Except Failure Services
  | .aws cluster => .ok (.aws cluster (awsSession cluster))
  | .azure cluster => do
    let credential ← Azure.Credential.of cluster tokenFile
    return .azure cluster (← Azure.Client.of cluster credential patience) none

/-- Run an operation of Azure's adapters and keep the token of their client. -/
def runAzure {α : Type} (cluster : AzureContext) (client : Azure.Client) (token : Option String)
    (operation : Azure.Operation α) : Program World (Except Failure α × Services) := do
  let (outcome, token) ← operation.runFrom client token
  return (outcome, .azure cluster client token)

/-- Whether a bucket exists. -/
def doesExist (bucket : Bucket) : Services → Program World (Except Failure Bool × Services)
  | .aws cluster session => do
    return (← (Aws.Storage.doesExist bucket).run session, .aws cluster session)
  | .azure cluster client token =>
    runAzure cluster client token (Azure.Storage.doesExist cluster bucket)

/-- The AWS operation of a change. -/
def awsChange (cluster : AwsContext) (bucket : Bucket) (patience : Nat) :
    Change → Aws.Operation Unit
  | .createBucket => Aws.Storage.create cluster bucket
  | .updateBucket => Aws.Storage.update
  | .deleteBucket => Aws.Storage.remove bucket patience
  | .configureBucket => Aws.Storage.configure cluster bucket
  | .configureRole => Aws.AccessRole.configure cluster bucket
  | .deleteRole => Aws.AccessRole.remove bucket patience

/-- The Azure operation of a change; creating and updating are the same. -/
def azureChange (cluster : AzureContext) (bucket : Bucket) : Change → Azure.Operation Unit
  | .createBucket => Azure.Storage.ensure cluster bucket
  | .updateBucket => Azure.Storage.ensure cluster bucket
  | .deleteBucket => Azure.Storage.remove cluster bucket
  | .configureBucket => Azure.Storage.configure cluster bucket
  | .configureRole => Azure.AccessRole.configure
  | .deleteRole => Azure.AccessRole.remove cluster bucket

/-- Make a change. -/
def change (patience : Nat) (c : Change) (bucket : Bucket) :
    Services → Program World (Except Failure Unit × Services)
  | .aws cluster session => do
    return (← (awsChange cluster bucket patience c).run session, .aws cluster session)
  | .azure cluster client token => runAzure cluster client token (azureChange cluster bucket c)

end Services

/-- Ask the adapters, which must have been set up. -/
def withServices {α : Type} (services : Option Services)
    (ask : Services → Program World (α × Services)) : Program World (α × Option Services) :=
  match services with
  | some services => do
    let (answer, services) ← ask services
    return (answer, some services)
  | none => .cut

/-- How a collaborator answers, given the adapters set up so far. -/
def Call.serve (settings : Settings) :
    (c : Call) → Option Services → Program World (c.Answer × Option Services)
  | .load namespaceName name, current => do
    return (← Bucket.load settings.patience namespaceName name, current)
  | .resolve, current => do return (← Cluster.resolve settings.cluster, current)
  | .services cluster, current =>
    match Services.of settings.tokenFile settings.patience cluster with
    | .ok adapters => return (.ok (), some adapters)
    | .error failure => return (.error failure, current)
  | .addFinalizer bucket, current => do
    return (← Bucket.addFinalizer settings.patience bucket, current)
  | .removeFinalizer bucket, current => do
    return (← Bucket.removeFinalizer settings.patience bucket, current)
  | .patchStatus bucket status, current => do
    return (← Bucket.patchStatus settings.patience bucket status, current)
  | .doesExist bucket, current =>
    withServices current (Services.doesExist bucket)
  | .change c bucket, current => withServices current (Services.change settings.patience c bucket)
  | .clock, current => do return (← World.clock, current)
  | .record event, current => do return (← World.record event, current)

/-- Reconcile a record in the world. -/
def run (settings : Settings) (namespaceName name : String) :
    Program World (Except Failure Outcome) := do
  return (← (invoke namespaceName name).interpret (Call.serve settings) none).1

end BucketOperator.Reconcile
