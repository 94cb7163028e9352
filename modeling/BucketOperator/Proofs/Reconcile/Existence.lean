import BucketOperator.Proofs.Azure.Existence
import BucketOperator.Proofs.Reconcile.Phases
import BucketOperator.Reconcile.Serve

/-!
# Whether a bucket exists

A bucket is absent when the provider says so of the bucket itself, and present when the provider
grants what was asked about it. Anything else is a failure of the provider. Azure's adapter keeps
to this except for one answer: when the token endpoint has nothing to give, the bucket is reported
as absent although the provider was never asked about it.
-/

namespace BucketOperator.Reconcile

open Program (yields_bind_iff yields_done_iff yields_ask_iff)

namespace Services

variable {bucket : Bucket} {services : Services} {t : Trace World}

/-- The bucket was asked for, and the provider answered that it is not there. -/
def SaysAbsent (bucket : Bucket) : Services → Trace World → Prop
  | .aws _ session, t => ∃ code,
    (⟨.s3 session ⟨bucket.spec.name, .headBucket⟩, .error (.service code 404)⟩ :
      Exchange World) ∈ t
  | .azure cluster client _, t => Azure.SaysAbsent client (.of cluster bucket.spec.name) t

/-- The bucket was asked for, and the provider granted all that was asked. -/
def SaysPresent (bucket : Bucket) : Services → Trace World → Prop
  | .aws _ session, t =>
    (⟨.s3 session ⟨bucket.spec.name, .headBucket⟩, .ok ()⟩ : Exchange World) ∈ t
  | .azure cluster client _, t => Azure.SaysPresent client (.of cluster bucket.spec.name) t

/-- A token was asked for, and the token endpoint answered with status 404. -/
def TokenNotFound : Services → Trace World → Prop
  | .aws .., _ => False
  | .azure _ client _, t => client.credential.NotFound t

/-- Absence, presence and failure are told apart as the provider tells them apart. -/
structure IsToldApart (services : Services) (bucket : Bucket) (t : Trace World)
    (outcome : Except Failure Bool) : Prop where
  absent : outcome = .ok false ↔ services.SaysAbsent bucket t
  present : outcome = .ok true ↔ services.SaysPresent bucket t
  failed : ∀ failure, outcome = .error failure →
    ∃ operation cause, failure = .provider bucket.spec.name operation cause

/-! ### Searching on AWS -/

/-- What an answer about a bucket comes to. -/
def headed (name : String) : Except Aws.Failure Unit → Except Failure Bool
  | .ok _ => .ok true
  | .error failure =>
    if Aws.Storage.isAbsent failure then .ok false
    else .error (.provider name "head bucket" (.aws failure))

lemma run_headBucket (session : Aws.Session) :
    (Aws.Storage.doesExist bucket).run session =
      .ask (.s3 session ⟨bucket.spec.name, .headBucket⟩) fun r =>
        .done (headed bucket.spec.name r) := by
  change Program.ask _ _ = Program.ask _ _
  congr 1
  funext (r : Except Aws.Failure Unit)
  cases r with
  | ok u => rfl
  | error failure =>
    change Program.substitute (I := Aws.Api) (J := World) (Aws.Call.serve session)
      (if Aws.Storage.isAbsent failure = true then .done (Except.ok false)
        else .done (.error (Failure.provider bucket.spec.name "head bucket" (.aws failure)))) = _
    simp only [headed]
    split <;> rfl

lemma headed_eq_false {name : String} {r : Except Aws.Failure Unit} :
    headed name r = .ok false ↔ ∃ code, r = .error (.service code 404) := by
  cases r with
  | ok u => simp [headed]
  | error failure =>
    cases failure with
    | service code status => simp [headed, Aws.Storage.isAbsent]
    | dispatch => simp [headed, Aws.Storage.isAbsent]

lemma headed_eq_true {name : String} {r : Except Aws.Failure Unit} :
    headed name r = .ok true ↔ r = .ok () := by
  cases r with
  | ok u => simp [headed]
  | error failure =>
    simp only [headed]
    split <;> simp

lemma headed_eq_error {name : String} {r : Except Aws.Failure Unit} {failure : Failure}
    (h : headed name r = .error failure) :
    ∃ cause, failure = .provider name "head bucket" (.aws cause) := by
  cases r with
  | ok u => cases h
  | error cause =>
    simp only [headed] at h
    split at h
    · cases h
    · cases h
      exact ⟨cause, rfl⟩

/-- A single answer tells all on AWS. -/
lemma isToldApart_headed (cluster : AwsContext) (session : Aws.Session)
    (r : Except Aws.Failure Unit) :
    IsToldApart (.aws cluster session) bucket
      [⟨.s3 session ⟨bucket.spec.name, .headBucket⟩, r⟩] (headed bucket.spec.name r) := by
  have hanswer : ∀ r' : Except Aws.Failure Unit,
      (⟨.s3 session ⟨bucket.spec.name, .headBucket⟩, r'⟩ : Exchange World) ∈
        ([⟨.s3 session ⟨bucket.spec.name, .headBucket⟩, r⟩] : Trace World) ↔ r' = r := by
    intro r'
    rw [List.mem_singleton]
    constructor
    · intro heq
      exact eq_of_heq (Exchange.mk.inj heq).2
    · rintro rfl
      rfl
  constructor
  · rw [headed_eq_false]
    constructor
    · rintro ⟨code, hr⟩
      exact ⟨code, (hanswer _).2 hr.symm⟩
    · rintro ⟨code, hmem⟩
      exact ⟨code, ((hanswer _).1 hmem).symm⟩
  · rw [headed_eq_true]
    constructor
    · exact fun hr => (hanswer _).2 hr.symm
    · exact fun hmem => ((hanswer _).1 hmem).symm
  · intro failure hfailure
    obtain ⟨cause, rfl⟩ := headed_eq_error hfailure
    exact ⟨"head bucket", .aws cause, rfl⟩

/-! ### Searching with the adapters of a cluster -/

variable {outcome : Except Failure Bool}

lemma told_apart_aws {cluster : AwsContext} {session : Aws.Session} {after : Services}
    (h : ((Services.aws cluster session).doesExist bucket).Yields t (outcome, after)) :
    IsToldApart (.aws cluster session) bucket t outcome := by
  obtain ⟨t₁, t₂, found, rfl, hfound, hdone⟩ := yields_bind_iff.1 h
  rw [run_headBucket] at hfound
  obtain ⟨r, u, rfl, hr⟩ := yields_ask_iff.1 hfound
  obtain ⟨rfl, rfl⟩ := yields_done_iff.1 hr
  obtain ⟨rfl, ⟨⟩⟩ := yields_done_iff.1 hdone
  exact isToldApart_headed cluster session r

lemma not_aws_cut {cluster : AwsContext} {session : Aws.Session} :
    ¬ ((Services.aws cluster session).doesExist bucket).After t .cut := by
  intro h
  rcases Program.bind_after_cut_iff.1 h with h | ⟨_, _, _, _, _, h⟩
  · rw [run_headBucket] at h
    obtain ⟨_, _, _, hdone⟩ := Program.ask_after_cut_iff.1 h
    exact Program.not_done_after_cut hdone
  · exact Program.not_done_after_cut h

lemma verdict_azure {cluster : AzureContext} {client : Azure.Client} {token : Option String}
    {after : Services}
    (h : ((Services.azure cluster client token).doesExist bucket).Yields t (outcome, after)) :
    Azure.Verdict client (.of cluster bucket.spec.name) t outcome := by
  obtain ⟨t₁, t₂, ⟨found, current⟩, rfl, hfound, hdone⟩ := yields_bind_iff.1 h
  obtain ⟨rfl, ⟨⟩⟩ := yields_done_iff.1 hdone
  rw [List.append_nil]
  exact Azure.verdict_of_yields hfound

lemma azure_cut {cluster : AzureContext} {client : Azure.Client} {token : Option String}
    (h : ((Services.azure cluster client token).doesExist bucket).After t .cut) :
    ((Azure.Storage.doesExist cluster bucket).runFrom client token).After t .cut := by
  rcases Program.bind_after_cut_iff.1 h with h | ⟨_, _, _, _, _, hdone⟩
  · exact h
  · exact absurd hdone Program.not_done_after_cut

/-- The client that is set up for a cluster repeats its calls as all calls are repeated. -/
lemma client_of_services {tokenFile : Option String} {patience : Nat} {context : ClusterContext}
    {cluster : AzureContext} {client : Azure.Client} {token : Option String}
    (h : Services.of tokenFile patience context = .ok (.azure cluster client token)) :
    client.retries = Backoff.forCalls ∧ client.patience = patience := by
  cases context with
  | aws cluster' => cases h
  | azure cluster' =>
    rw [Services.of] at h
    cases hcredential : Azure.Credential.of cluster' tokenFile with
    | error failure =>
      rw [hcredential] at h
      cases h
    | ok credential =>
      rw [hcredential] at h
      cases hclient : Azure.Client.of cluster' credential patience with
      | error failure =>
        simp only [bind, Except.bind, hclient] at h
        cases h
      | ok client' =>
        simp only [bind, Except.bind, hclient] at h
        cases h
        rw [Azure.Client.of] at hclient
        split at hclient
        · cases hclient
          exact ⟨rfl, rfl⟩
        · cases hclient

end Services

open Services

/-- Absence, presence and failure are told apart in a run exactly if no token endpoint answered
with status 404. When one did, the bucket is reported as absent. Only a run in which as many
attempts as are allowed met a passing trouble does not end. -/
theorem told_apart_iff_token_found {tokenFile : Option String} {patience : Nat}
    {context : ClusterContext} {services : Services} {bucket : Bucket}
    (h : Services.of tokenFile patience context = .ok services) :
    (∀ t outcome after, (services.doesExist bucket).Yields t (outcome, after) →
      (IsToldApart services bucket t outcome ↔ ¬ services.TokenNotFound t) ∧
      (services.TokenNotFound t → outcome = .ok false)) ∧
    ∀ t, (services.doesExist bucket).After t .cut → patience ≤ t.countP Azure.isPassing := by
  cases services with
  | aws cluster session =>
    constructor
    · intro t outcome after hrun
      exact ⟨⟨fun _ => id, fun _ => told_apart_aws hrun⟩, False.elim⟩
    · intro t hcut
      exact absurd hcut not_aws_cut
  | azure cluster client token =>
    obtain ⟨hretries, hpatience⟩ := client_of_services h
    constructor
    · intro t outcome after hrun
      have hverdict := verdict_azure hrun
      refine ⟨⟨?_, ?_⟩, ?_⟩
      · intro htold hmissing
        exact hverdict.apart hmissing (htold.absent.1 (hverdict.absent.2 (.inl hmissing)))
      · intro hmissing
        constructor
        · exact hverdict.absent.trans (or_iff_right hmissing)
        · exact hverdict.present
        · exact hverdict.failed
      · exact fun hmissing => hverdict.absent.2 (.inl hmissing)
    · intro t hcut
      rw [← hpatience]
      exact Azure.patience_le_of_doesExist_cut hretries (azure_cut hcut)

/-! ### A token that is missing -/

/-- A cluster whose identity the metadata service may not know. -/
def strangerContext : AzureContext :=
  { (default : AzureContext) with identity := .managed "stranger" }

/-- The client that is set up for the stranger. -/
def strangerClient (base : Url) : Azure.Client :=
  ⟨base, .managed Azure.metadataEndpoint "stranger", .forCalls, .forPolls, 1⟩

/-- The metadata service answers the request for a token with status 404. -/
def strangerTrace (request : Http.Request) : Trace World :=
  [⟨.http request, some ⟨404, [], ""⟩⟩]

lemma exists_ok {ε α : Type} {x : Except ε α} (h : x.isOk = true) : ∃ a, x = .ok a := by
  cases x with
  | ok a => exact ⟨a, rfl⟩
  | error e => cases h

lemma yields_stranger_token {base : Url} {request : Http.Request}
    (h : Azure.metadataRequest Azure.metadataEndpoint "stranger" = .ok request) :
    (strangerClient base).credential.token.Yields (strangerTrace request)
      (.error (Azure.failureOf ⟨404, [], ""⟩)) := by
  rw [strangerClient, Azure.Credential.token, h, Azure.requestToken_ok]
  exact .answered (.here _)

/-- The adapters for the stranger, and how its search may end. -/
lemma stranger_search : ∃ (base : Url) (request : Http.Request),
    Services.of none 1 (.azure strangerContext) =
        .ok (.azure strangerContext (strangerClient base) none) ∧
      Azure.metadataRequest Azure.metadataEndpoint "stranger" = .ok request ∧
      ((Services.azure strangerContext (strangerClient base) none).doesExist doomed).Yields
        (strangerTrace request)
        (.ok false, .azure strangerContext (strangerClient base) none) := by
  obtain ⟨request, hrequest⟩ := exists_ok (x := Azure.metadataRequest Azure.metadataEndpoint
    "stranger") (by decide +kernel)
  have hreach : ((Url.parse Azure.managerEndpoint).toOption.any fun base =>
      (Azure.Client.resourceUrl base (Azure.ResourceIds.of strangerContext "logs").storageAccount
        Azure.storageVersion).isOk) = true := by
    decide +kernel
  obtain ⟨base, hbase⟩ := exists_ok (x := Url.parse Azure.managerEndpoint) (by decide +kernel)
  rw [hbase] at hreach
  obtain ⟨url, hurl⟩ := exists_ok hreach
  refine ⟨base, request, ?_, hrequest, ?_⟩
  · simp [Services.of, Azure.Credential.of, Azure.Client.of, hbase, strangerContext,
      strangerClient, bind, Except.bind, pure, Except.pure]
  · have hfound : Azure.found doomed.spec.name "get storage account"
        (.error (Azure.failureOf ⟨404, [], ""⟩) : Except Azure.Failure Json) = .ok false :=
      Azure.found_eq_false.2 (Azure.isAbsence_error.2 (Azure.isNotFound_failureOf.2 rfl))
    have hsearch : ((Azure.Storage.doesExist strangerContext doomed).runFrom
        (strangerClient base) none).Yields (strangerTrace request) (.ok false, none) := by
      rw [← hfound]
      exact Azure.yields_of_no_token hurl (yields_stranger_token hrequest)
    exact yields_bind_iff.2
      ⟨strangerTrace request, [], (.ok false, none), by simp, hsearch, .here _⟩

/-- A bucket that nobody was asked about is reported as absent. -/
theorem missing_token_hides_bucket :
    ¬ ∀ (tokenFile : Option String) (patience : Nat) (context : ClusterContext)
      (services : Services) (bucket : Bucket) (t : Trace World) (outcome : Except Failure Bool)
      (after : Services), Services.of tokenFile patience context = .ok services →
      (services.doesExist bucket).Yields t (outcome, after) →
      outcome = .ok false → services.SaysAbsent bucket t := by
  intro h
  obtain ⟨base, request, hservices, hrequest, hrun⟩ := stranger_search
  have habsent := h none 1 _ _ doomed _ _ _ hservices hrun rfl
  have hmissing : (Services.azure strangerContext (strangerClient base) none).TokenNotFound
      (strangerTrace request) :=
    ⟨request, ⟨404, [], ""⟩, hrequest, rfl, List.mem_singleton.2 rfl⟩
  exact (verdict_azure hrun).apart hmissing habsent

theorem stranger_told_apart_iff : ∃ services : Services,
    Services.of none 1 (.azure strangerContext) = .ok services ∧
      (∀ t outcome after, (services.doesExist doomed).Yields t (outcome, after) →
        (IsToldApart services doomed t outcome ↔ ¬ services.TokenNotFound t) ∧
        (services.TokenNotFound t → outcome = .ok false)) ∧
      ∀ t, (services.doesExist doomed).After t .cut → 1 ≤ t.countP Azure.isPassing := by
  obtain ⟨_, _, hservices, _⟩ := stranger_search
  exact ⟨_, hservices, told_apart_iff_token_found hservices⟩

end BucketOperator.Reconcile
