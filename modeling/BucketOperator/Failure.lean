/-!
# Failures

Why a reconciliation may fail, with the text of each cause, the category it is counted under, and
whether it is worth trying again. That something does not exist is no failure: whoever asks treats
it as an ordinary answer.
-/

namespace BucketOperator

/-- Why a request to the Kubernetes API failed. -/
inductive Kubernetes.Failure where
  /-- The API answered with a status. `notFound` tells whether its reason is that of an absent
  object. -/
  | status (code : Nat) (notFound : Bool)
  /-- No answer came. -/
  | service
  /-- The answer is not what was asked for. -/
  | undecodable
  /-- The request could not be formed. -/
  | other
  deriving DecidableEq, Repr, Inhabited

def Kubernetes.Failure.message : Kubernetes.Failure → String
  | .status code _ => s!"<api {code}>"
  | .service => "<service>"
  | .undecodable => "<undecodable>"
  | .other => "<other>"

/-- Why a call to Resource Manager or to Azure AD failed. -/
inductive Azure.Failure where
  /-- No whole answer came, or the request could not be formed. -/
  | transport
  /-- The service answered with an error of its own. -/
  | status (status : Nat) (code message : String)
  /-- A success came with a body that is not JSON. -/
  | undecodable
  /-- A long-running operation ended without success. -/
  | operation (status message : String)
  /-- A long-running operation did not end in time. -/
  | pollTimeout (url : String)
  /-- A URL cannot be read or resolved. -/
  | invalidUrl (reason : String)
  /-- The projected service account token cannot be read. -/
  | tokenFile (path reason : String)
  deriving DecidableEq, Repr, Inhabited

def Azure.Failure.message : Azure.Failure → String
  | .transport => "Azure request failed: <transport>"
  | .status http code text => s!"Azure returned HTTP {http} ({code}): {text}"
  | .undecodable => "Azure returned an undecodable body: <json>"
  | .operation outcome text => s!"Azure operation finished with status {outcome}: {text}"
  | .pollTimeout url => s!"timed out waiting for Azure operation {url}"
  | .invalidUrl reason => s!"invalid Azure URL: {reason}"
  | .tokenFile path cause => s!"failed to read federated token file {path}: {cause}"

/-- Whether the addressed resource does not exist. -/
def Azure.Failure.isNotFound : Azure.Failure → Bool
  | .status 404 _ _ => true
  | _ => false

/-- Why a call to AWS failed. -/
inductive Aws.Failure where
  /-- The service answered with an error code and an HTTP status. -/
  | service (code : String) (status : Nat)
  /-- No answer came. -/
  | dispatch
  deriving DecidableEq, Repr, Inhabited

def Aws.Failure.message : Aws.Failure → String
  | .service _ _ => "service error"
  | .dispatch => "dispatch failure"

/-- What a provider call failed with. -/
inductive ProviderCause where
  | azure (failure : Azure.Failure)
  | aws (failure : Aws.Failure)
  /-- The answer lacks something. -/
  | text (message : String)
  deriving DecidableEq, Repr, Inhabited

def ProviderCause.message : ProviderCause → String
  | .azure failure => failure.message
  | .aws failure => failure.message
  | .text message => message

/-- Why a reconciliation failed. -/
inductive Failure where
  /-- The cluster's cloud context could not be determined. -/
  | resolution (cluster reason : String)
  /-- A call to the cloud provider failed. -/
  | provider (bucket operation : String) (cause : ProviderCause)
  /-- A call to the Kubernetes API failed. -/
  | controlPlane (cause : Kubernetes.Failure)
  /-- There is no adapter for the cluster's provider. -/
  | unsupportedProvider (name : String)
  /-- The record cannot be acted upon as written. -/
  | invalidBucket (bucket reason : String)
  deriving DecidableEq, Repr, Inhabited

namespace Failure

def message : Failure → String
  | .resolution cluster reason => s!"failed to resolve cluster context for '{cluster}': {reason}"
  | .provider bucket operation cause =>
    s!"{operation} failed for bucket '{bucket}': {cause.message}"
  | .controlPlane cause => s!"Kubernetes API request failed: {cause.message}"
  | .unsupportedProvider name =>
    s!"unsupported management cluster provider '{name}' (expected capa or capz)"
  | .invalidBucket bucket reason => s!"invalid bucket '{bucket}': {reason}"

/-- The category a failure is counted under. -/
def reason : Failure → String
  | .resolution .. => "resolution_error"
  | .provider .. => "provider_error"
  | .controlPlane .. => "api_error"
  | .unsupportedProvider .. => "unsupported_provider"
  | .invalidBucket .. => "validation_error"

/-- Whether another reconciliation may succeed. -/
def isTransient : Failure → Bool
  | .resolution .. => true
  | .provider .. => true
  | .controlPlane .. => true
  | .unsupportedProvider .. => false
  | .invalidBucket .. => false

end Failure

end BucketOperator
