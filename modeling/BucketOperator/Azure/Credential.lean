import BucketOperator.Azure.Answer
import BucketOperator.Cluster.Context
import BucketOperator.Text.Blank
import BucketOperator.World

/-!
# Tokens of Azure AD

Where the bearer tokens for Resource Manager come from: the instance metadata service, a client
secret, or the projected service account token.
-/

namespace BucketOperator.Azure

/-- A source of tokens. -/
inductive Credential where
  | fixed (token : String)
  | managed (endpoint clientId : String)
  | clientSecret (authority tenantId clientId secret : String)
  | workload (authority tenantId clientId tokenFile : String)
  deriving DecidableEq, Repr

/-- The address of Resource Manager. -/
def managerEndpoint : String := "https://management.azure.com"

/-- What tokens are asked for. -/
def managerScope : String := managerEndpoint ++ "/.default"

/-- The host of Azure AD. -/
def authorityHost : String := "https://login.microsoftonline.com"

/-- The token endpoint of the instance metadata service. -/
def metadataEndpoint : String := "http://169.254.169.254/metadata/identity/oauth2/token"

/-- A text without slashes at its end. -/
def dropTrailingSlashes (text : String) : String :=
  String.ofList (text.toList.reverse.dropWhile (· == '/')).reverse

/-- The token endpoint of a tenant. -/
def tokenEndpoint (authority tenantId : String) : Except Failure Url :=
  parseUrl s!"{dropTrailingSlashes authority}/{tenantId}/oauth2/v2.0/token"

/-- The metadata request for a token of a managed identity. -/
def metadataRequest (endpoint clientId : String) : Except Failure Http.Request := do
  let url ← parseUrl endpoint
  let url := url.appendQuery "api-version" "2018-02-01"
  let url := url.appendQuery "resource" (managerEndpoint ++ "/")
  let url := url.appendQuery "client_id" clientId
  return ⟨.get, url, [("metadata", "true")], none⟩

/-- The request for a token of a client secret. -/
def secretRequest (authority tenantId clientId secret : String) : Except Failure Http.Request := do
  let url ← tokenEndpoint authority tenantId
  return ⟨.post, url, [], some (.form [
    ("grant_type", "client_credentials"),
    ("client_id", clientId),
    ("client_secret", secret),
    ("scope", managerScope)])⟩

/-- The kind of assertion that a projected token is. -/
def assertionType : String := "urn:ietf:params:oauth:client-assertion-type:jwt-bearer"

/-- The request that exchanges a projected token. -/
def assertionRequest (authority tenantId clientId assertion : String) :
    Except Failure Http.Request := do
  let url ← tokenEndpoint authority tenantId
  return ⟨.post, url, [], some (.form [
    ("grant_type", "client_credentials"),
    ("client_id", clientId),
    ("client_assertion_type", assertionType),
    ("client_assertion", Text.trim assertion),
    ("scope", managerScope)])⟩

/-- Send a token request and read the token. -/
def requestToken (request : Except Failure Http.Request) : Program World (Except Failure String) :=
  match request with
  | .error failure => return .error failure
  | .ok request => do
    match ← World.http request with
    | none => return .error .transport
    | some response =>
      if response.isSuccess then
        match (Json.Tree.parse? response.body).bind readToken with
        | some token => return .ok token
        | none => return .error .transport
      else return .error (failureOf response)

/-- Acquire a token. The projected token is read anew each time. -/
def Credential.token : Credential → Program World (Except Failure String)
  | .fixed token => return .ok token
  | .managed endpoint clientId => requestToken (metadataRequest endpoint clientId)
  | .clientSecret authority tenantId clientId secret =>
    requestToken (secretRequest authority tenantId clientId secret)
  | .workload authority tenantId clientId tokenFile => do
    match ← World.readFile tokenFile with
    | .ok assertion => requestToken (assertionRequest authority tenantId clientId assertion)
    | .error reason => return .error (.tokenFile tokenFile reason)

/-- The credential of a cluster's identity. A workload identity needs a token file. -/
def Credential.of (cluster : AzureContext) (tokenFile : Option String) :
    Except BucketOperator.Failure Credential :=
  match cluster.identity with
  | .managed clientId => .ok (.managed metadataEndpoint clientId)
  | .servicePrincipal tenantId clientId secret =>
    .ok (.clientSecret authorityHost tenantId clientId secret)
  | .workload tenantId clientId =>
    match tokenFile with
    | some path => .ok (.workload authorityHost tenantId clientId path)
    | none =>
      .error (.resolution cluster.name
        "workload identity requires AZURE_FEDERATED_TOKEN_FILE to be set")

end BucketOperator.Azure
