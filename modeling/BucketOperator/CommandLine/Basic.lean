import BucketOperator.Cluster.Management
import BucketOperator.Net.Address

/-!
# The command line

What the operator is told when it starts: the addresses it serves on, whether it takes part in
leader election, and its management cluster. Some of this may come from the environment instead,
and the command line wins.
-/

namespace BucketOperator.CommandLine

/-- What an option with a value sets. -/
inductive Setting where
  | metricsBindAddress
  | healthProbeBindAddress
  | leaseName
  | leaseNamespace
  | clusterBaseDomain
  | clusterName
  | clusterNamespace
  | clusterProvider
  | clusterRegion
  deriving DecidableEq, Repr

namespace Setting

/-- The option, without its dashes. -/
def name : Setting → String
  | .metricsBindAddress => "metrics-bind-address"
  | .healthProbeBindAddress => "health-probe-bind-address"
  | .leaseName => "lease-name"
  | .leaseNamespace => "lease-namespace"
  | .clusterBaseDomain => "management-cluster-base-domain"
  | .clusterName => "management-cluster-name"
  | .clusterNamespace => "management-cluster-namespace"
  | .clusterProvider => "management-cluster-provider"
  | .clusterRegion => "management-cluster-region"

/-- In the order in which they are described. -/
def all : List Setting :=
  [.metricsBindAddress, .healthProbeBindAddress, .leaseName, .leaseNamespace, .clusterBaseDomain,
    .clusterName, .clusterNamespace, .clusterProvider, .clusterRegion]

def description : Setting → String
  | .metricsBindAddress => "Address the metrics endpoint binds to"
  | .healthProbeBindAddress => "Address the health probe endpoint binds to"
  | .leaseName => "Name of the leader election lease"
  | .leaseNamespace => "Namespace of the leader election lease"
  | .clusterBaseDomain => "Base domain of the management cluster"
  | .clusterName => "Name of the management cluster"
  | .clusterNamespace => "Namespace holding the management cluster infrastructure records"
  | .clusterProvider => "Cluster API provider of the management cluster (capa or capz)"
  | .clusterRegion => "Cloud region of the management cluster"

/-- The value of a setting that is neither on the command line nor in the environment. -/
def default? : Setting → Option String
  | .metricsBindAddress => some "0.0.0.0:8080"
  | .healthProbeBindAddress => some "0.0.0.0:8081"
  | .leaseName => some "object-storage-operator-leader"
  | .leaseNamespace => some "default"
  | _ => none

/-- The environment variable that may hold the value. -/
def variableName? : Setting → Option String
  | .metricsBindAddress => some "METRICS_BIND_ADDRESS"
  | .healthProbeBindAddress => some "HEALTH_PROBE_BIND_ADDRESS"
  | .leaseNamespace => some "POD_NAMESPACE"
  | _ => none

def isAddress : Setting → Bool
  | .metricsBindAddress | .healthProbeBindAddress => true
  | _ => false

/-- Whether a text may be the value: addresses must be well formed. -/
def accepts (setting : Setting) (value : String) : Bool :=
  !setting.isAddress || (Net.SocketAddress.parse? value).isSome

end Setting

/-- Why a command line starts no operator. -/
inductive Refusal where
  | help
  | version
  | unknownArgument
  /-- An option that needs a value has none. -/
  | valueMissing
  /-- A flag has a value. -/
  | valueUnexpected
  | repeated
  | malformedAddress
  /-- A flag in the environment is neither `true` nor `false`. -/
  | malformedFlag
  | requiredMissing
  deriving DecidableEq, Repr

/-- Being asked for help is no error. -/
def Refusal.exitCode : Refusal → Nat
  | .help | .version => 0
  | _ => 2

/-- The environment variables that are set. -/
abbrev Environment := String → Option String

/-- What the operator is told when it starts. -/
structure Arguments where
  metricsAddress : Net.SocketAddress
  probeAddress : Net.SocketAddress
  leaderElect : Bool
  leaseName : String
  leaseNamespace : String
  clusterBaseDomain : String
  clusterName : String
  clusterNamespace : String
  clusterProvider : String
  clusterRegion : String
  deriving DecidableEq, Repr

/-- The management cluster, if its provider is supported. -/
def Arguments.managementCluster (args : Arguments) : Except Failure ManagementCluster := do
  return {
    name := args.clusterName
    namespaceName := args.clusterNamespace
    baseDomain := args.clusterBaseDomain
    provider := ← CloudProvider.ofClusterApi args.clusterProvider
    region := args.clusterRegion }

end BucketOperator.CommandLine
