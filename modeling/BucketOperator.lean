import BucketOperator.Aws.AccessRole
import BucketOperator.Aws.Api
import BucketOperator.Aws.Call
import BucketOperator.Aws.Parameters
import BucketOperator.Aws.Policy
import BucketOperator.Aws.Storage
import BucketOperator.Azure.AccessSecret
import BucketOperator.Azure.Account
import BucketOperator.Azure.Answer
import BucketOperator.Azure.Api
import BucketOperator.Azure.Client
import BucketOperator.Azure.Container
import BucketOperator.Azure.Credential
import BucketOperator.Azure.Lifecycle
import BucketOperator.Azure.Naming
import BucketOperator.Azure.PrivateEndpoint
import BucketOperator.Azure.Serve
import BucketOperator.Azure.Server
import BucketOperator.Azure.Storage
import BucketOperator.Backoff
import BucketOperator.Base64
import BucketOperator.Binary64
import BucketOperator.Bucket.Definition
import BucketOperator.Bucket.Document
import BucketOperator.Bucket.Record
import BucketOperator.Bucket.Store
import BucketOperator.Cluster.Aws
import BucketOperator.Cluster.Azure
import BucketOperator.Cluster.Context
import BucketOperator.Cluster.Management
import BucketOperator.Cluster.Record
import BucketOperator.Cluster.Resolver
import BucketOperator.CommandLine.Basic
import BucketOperator.CommandLine.Parser
import BucketOperator.CommandLine.Start
import BucketOperator.CustomResource.Definition
import BucketOperator.CustomResource.Schema
import BucketOperator.Duration
import BucketOperator.Failure
import BucketOperator.Http.Endpoints
import BucketOperator.Http.Message
import BucketOperator.Json.Parser
import BucketOperator.Json.Printer
import BucketOperator.Json.Reading
import BucketOperator.Json.Tree
import BucketOperator.Json.Value
import BucketOperator.Kubernetes.Client
import BucketOperator.Kubernetes.Finalizers
import BucketOperator.Kubernetes.Metadata
import BucketOperator.Kubernetes.Objects
import BucketOperator.Kubernetes.Request
import BucketOperator.Kubernetes.Server
import BucketOperator.Kubernetes.Status
import BucketOperator.Main
import BucketOperator.Metrics.Event
import BucketOperator.Metrics.Exposition
import BucketOperator.Metrics.Registry
import BucketOperator.Net.Address
import BucketOperator.Program
import BucketOperator.Proofs.Aws.Configuration
import BucketOperator.Proofs.Aws.Dismantling
import BucketOperator.Proofs.Aws.Grants
import BucketOperator.Proofs.Aws.Purging
import BucketOperator.Proofs.Aws.RoleRace
import BucketOperator.Proofs.Aws.Roles
import BucketOperator.Proofs.Aws.Session
import BucketOperator.Proofs.Aws.Statements
import BucketOperator.Proofs.Aws.Tagging
import BucketOperator.Proofs.Aws.Trust
import BucketOperator.Proofs.Azure.Addressing
import BucketOperator.Proofs.Azure.Changing
import BucketOperator.Proofs.Azure.Concluding
import BucketOperator.Proofs.Azure.Confirmation
import BucketOperator.Proofs.Azure.Deletion
import BucketOperator.Proofs.Azure.Estate
import BucketOperator.Proofs.Azure.Existence
import BucketOperator.Proofs.Azure.Expiration
import BucketOperator.Proofs.Azure.Finals
import BucketOperator.Proofs.Azure.LongRunning
import BucketOperator.Proofs.Azure.Naming
import BucketOperator.Proofs.Azure.OneToken
import BucketOperator.Proofs.Azure.Origin
import BucketOperator.Proofs.Azure.Policy
import BucketOperator.Proofs.Azure.Polling
import BucketOperator.Proofs.Azure.Provision
import BucketOperator.Proofs.Azure.Putting
import BucketOperator.Proofs.Azure.Reading
import BucketOperator.Proofs.Azure.Removal
import BucketOperator.Proofs.Azure.Repeating
import BucketOperator.Proofs.Azure.Requests
import BucketOperator.Proofs.Azure.Secrecy
import BucketOperator.Proofs.Azure.SecretRemoval
import BucketOperator.Proofs.Azure.Sending
import BucketOperator.Proofs.Azure.Separation
import BucketOperator.Proofs.Azure.Session
import BucketOperator.Proofs.Azure.Tags
import BucketOperator.Proofs.Azure.Teardown
import BucketOperator.Proofs.Azure.Token
import BucketOperator.Proofs.Bucket.Patching
import BucketOperator.Proofs.Bucket.RoundTrip
import BucketOperator.Proofs.Bucket.Tags
import BucketOperator.Proofs.Cluster.AwsAccount
import BucketOperator.Proofs.Cluster.Resolving
import BucketOperator.Proofs.Cluster.Secrecy
import BucketOperator.Proofs.Json.Likeness
import BucketOperator.Proofs.Json.Members
import BucketOperator.Proofs.Kubernetes.Asking
import BucketOperator.Proofs.Kubernetes.Coupling
import BucketOperator.Proofs.Kubernetes.FinalizerLists
import BucketOperator.Proofs.Kubernetes.ForeignFinalizers
import BucketOperator.Proofs.Kubernetes.Likeness
import BucketOperator.Proofs.Kubernetes.Patching
import BucketOperator.Proofs.Kubernetes.Repeating
import BucketOperator.Proofs.Kubernetes.Sharing
import BucketOperator.Proofs.Kubernetes.Writing
import BucketOperator.Proofs.Metrics.Families
import BucketOperator.Proofs.Metrics.Registry
import BucketOperator.Proofs.Program.Asking
import BucketOperator.Proofs.Program.Breaking
import BucketOperator.Proofs.Program.Guarantee
import BucketOperator.Proofs.Program.Layer
import BucketOperator.Proofs.Program.Repetition
import BucketOperator.Proofs.Program.Trace
import BucketOperator.Proofs.Reconcile.Counting
import BucketOperator.Proofs.Reconcile.Existence
import BucketOperator.Proofs.Reconcile.Lifetime
import BucketOperator.Proofs.Reconcile.Order
import BucketOperator.Proofs.Reconcile.Ownership
import BucketOperator.Proofs.Reconcile.Persistence
import BucketOperator.Proofs.Reconcile.Phases
import BucketOperator.Proofs.Reconcile.Privacy
import BucketOperator.Proofs.Reconcile.Readiness
import BucketOperator.Proofs.Reconcile.RoleTeardown
import BucketOperator.Proofs.Reconcile.Secrecy
import BucketOperator.Proofs.Reconcile.Stages
import BucketOperator.Proofs.Retry
import BucketOperator.Proofs.Retry.Rounds
import BucketOperator.Proofs.StringMap
import BucketOperator.Proofs.Url.Authority
import BucketOperator.Proofs.Url.Joining
import BucketOperator.Proofs.Url.Percent
import BucketOperator.Reconcile.Engine
import BucketOperator.Reconcile.Serve
import BucketOperator.Retry
import BucketOperator.Simulation.Attempts
import BucketOperator.Simulation.Aws
import BucketOperator.Simulation.Azure
import BucketOperator.Simulation.Collaborators
import BucketOperator.Simulation.Rule
import BucketOperator.Simulation.World
import BucketOperator.StringMap
import BucketOperator.Text.Blank
import BucketOperator.Text.Hidden
import BucketOperator.Text.Quoted
import BucketOperator.Timestamp
import BucketOperator.Url.Basic
import BucketOperator.Url.Host
import BucketOperator.Url.Parser
import BucketOperator.Url.Percent
import BucketOperator.World
import BucketOperator.Yaml.Node
import BucketOperator.Yaml.Printer
import BucketOperator.Yaml.Scalar
import BucketOperator.Yaml.Source
import BucketOperator.Yaml.Token
import BucketOperator.Yaml.Value
