import BucketOperator.Proofs.Azure.Addressing
import BucketOperator.Proofs.Azure.Deletion
import BucketOperator.Proofs.Reconcile.Existence

/-!
# Whether a bucket was removed

A removal deletes the address record, the private endpoint and the account, each only after the
ones before it were taken for deleted, and touches the secret last. So a removal that returns has
confirmed each of the three deletions, or has presumed it.
-/

namespace BucketOperator.Azure

open Program (yields_bind_iff yields_done_iff yields_ask_iff mayAsk_ask_iff)

/-! ### Sessions leave Kubernetes alone -/

/-- Whether an exchange was with Kubernetes. -/
def IsKubernetes (e : Exchange World) : Prop := ∃ request, e.call = .kubernetes request

/-- A program that asks nothing of Kubernetes. -/
def IsQuiet {α : Type} (p : Program World α) : Prop :=
  ∀ request, ¬ p.MayAsk (.kubernetes request)

section Quiet

variable {α β : Type} {p : Program World α}

lemma IsQuiet.not_isKubernetes {q : Program World α} {t : Trace World} (h : IsQuiet p)
    (ht : p.After t q) : ∀ e ∈ t, ¬ IsKubernetes e := by
  rintro e he ⟨request, hcall⟩
  exact h request (hcall ▸ ht.mayAsk e he)

lemma isQuiet_done {a : α} : IsQuiet (.done a) := fun _ => Program.not_mayAsk_done

lemma isQuiet_cut : IsQuiet (.cut : Program World α) := fun _ => Program.not_mayAsk_cut

lemma isQuiet_ask {c : World.Call} {next : c.Answer → Program World α}
    (hc : ∀ request, World.Call.kubernetes request ≠ c) (h : ∀ r, IsQuiet (next r)) :
    IsQuiet (.ask c next : Program World α) := by
  intro request hasks
  rcases mayAsk_ask_iff.1 hasks with hcall | ⟨r, hnext⟩
  · exact hc request hcall
  · exact h r request hnext

lemma IsQuiet.bind {f : α → Program World β} (h : IsQuiet p) (hf : ∀ a, IsQuiet (f a)) :
    IsQuiet (p.bind f) := by
  intro request hasks
  rcases hasks.of_bind with hasks | ⟨a, hasks⟩
  · exact h request hasks
  · exact hf a request hasks

lemma isQuiet_resume {f : α → Session β} (h : ∀ a token, IsQuiet ((f a).runFrom token)) :
    ∀ r, IsQuiet (resume f r)
  | (.ok a, token) => h a token
  | (.error _, _) => isQuiet_done

lemma isQuiet_ofExcept {outcome : Except Failure α} {token : Option String} :
    IsQuiet ((liftM outcome : Session α).runFrom token) := by
  rw [runFrom_ofExcept]
  exact isQuiet_done

lemma isQuiet_attemptFrom {again : α → Bool} {start patience : Nat} {backoff : Backoff}
    (h : IsQuiet p) :
    IsQuiet (Retry.inWorld p (Retry.attemptFrom again start patience backoff)) := by
  induction patience generalizing backoff with
  | zero => exact isQuiet_cut
  | succ patience ih =>
    rw [Retry.inWorld_attemptFrom_succ]
    refine h.bind fun outcome => ?_
    rw [Retry.proceed]
    split
    · refine isQuiet_ask (by rintro _ ⟨⟩) fun (now : Nat) => ?_
      change IsQuiet (if _ then _ else _)
      split
      · exact isQuiet_done
      · split
        · exact isQuiet_cut
        · exact isQuiet_ask (by rintro _ ⟨⟩) fun _ => ih
    · exact isQuiet_done

end Quiet

section Sessions

variable {client : Client} {credential : Credential} {request : Http.Request}
  {token : Option String}

lemma isQuiet_requestToken {request : Except Failure Http.Request} :
    IsQuiet (requestToken request) := by
  cases request with
  | error failure => exact isQuiet_done
  | ok request =>
    rw [requestToken_ok]
    exact isQuiet_ask (by rintro _ ⟨⟩) fun _ => isQuiet_done

lemma isQuiet_token : IsQuiet credential.token := by
  cases credential with
  | fixed token => exact isQuiet_done
  | managed endpoint clientId =>
    rw [Credential.token]
    exact isQuiet_requestToken
  | clientSecret authority tenantId clientId secret =>
    rw [Credential.token]
    exact isQuiet_requestToken
  | workload authority tenantId clientId tokenFile =>
    rw [token_workload]
    refine isQuiet_ask (by rintro _ ⟨⟩) fun content => ?_
    rcases content with reason | assertion
    · exact isQuiet_done
    · exact isQuiet_requestToken

lemma isQuiet_bearer : IsQuiet (client.bearer.runFrom token) := by
  cases token with
  | some bearer => exact isQuiet_done
  | none =>
    rw [runFrom_bearer_none]
    refine isQuiet_token.bind fun acquired => ?_
    cases acquired <;> exact isQuiet_done

lemma isQuiet_attempt {bearer : String} : IsQuiet (Client.attempt bearer request) := by
  rw [attempt_eq]
  split
  · exact isQuiet_ask (by rintro _ ⟨⟩) fun _ => isQuiet_done
  · exact isQuiet_done

lemma isQuiet_send : IsQuiet ((client.send request).runFrom token) := by
  rw [runFrom_send]
  refine isQuiet_bearer.bind (isQuiet_resume fun bearer token => ?_)
  rw [runFrom_ofOutcome]
  refine IsQuiet.bind (IsQuiet.bind ?_ fun _ => isQuiet_done) fun _ => isQuiet_done
  rw [Retry.inWorld_persist]
  exact isQuiet_ask (by rintro _ ⟨⟩) fun _ => isQuiet_attemptFrom isQuiet_attempt

lemma isQuiet_pollFrom {operation : Operation.Follow} {start patience : Nat} {backoff : Backoff} :
    IsQuiet ((Client.pollFrom operation.url (client.poll operation) start patience
      backoff).runFrom token) := by
  induction patience generalizing backoff token with
  | zero => exact isQuiet_cut
  | succ patience ih =>
    rw [runFrom_pollFrom_succ, runFrom_poll]
    refine IsQuiet.bind ?_ (isQuiet_resume fun progress token => ?_)
    · exact isQuiet_send.bind (isQuiet_resume fun _ _ => isQuiet_ofExcept)
    · cases progress with
      | ended => exact isQuiet_done
      | running =>
        rw [runFrom_repoll_running]
        refine isQuiet_ask (by rintro _ ⟨⟩) fun (now : Nat) => ?_
        change IsQuiet (if _ then _ else _)
        split
        · exact isQuiet_done
        · split
          · exact isQuiet_cut
          · exact isQuiet_ask (by rintro _ ⟨⟩) fun _ => ih

lemma isQuiet_await {response : Http.Response} :
    IsQuiet ((client.await response).runFrom token) := by
  by_cases haccepted : response.status = 202
  · rw [runFrom_await_of_eq haccepted]
    split
    · exact isQuiet_done
    · exact isQuiet_done
    · rw [runFrom_follow]
      exact isQuiet_ask (by rintro _ ⟨⟩) fun _ => isQuiet_pollFrom
  · rw [runFrom_await_of_ne haccepted]
    exact isQuiet_done

lemma isQuiet_deleteResource {path version : String} :
    IsQuiet ((client.deleteResource path version).runFrom token) := by
  rw [runFrom_deleteResource]
  split
  · exact isQuiet_done
  · exact isQuiet_send.bind (isQuiet_resume fun _ _ => isQuiet_await)

end Sessions

/-! ### The stages of a removal -/

section Stages

variable {client : Client} {cluster : AzureContext} {bucket : Bucket}
  {token : Option String} {t : Trace World}

/-- A deletion as part of a named operation, and what follows it. -/
def deleting (name operation path version : String)
    (rest : Program Api (Except BucketOperator.Failure Unit)) :
    Program Api (Except BucketOperator.Failure Unit) :=
  .ask (.delete path version) fun r =>
    match settle () r with
    | .ok () => rest
    | .error failure => .done (.error (.provider name operation (.azure failure)))

lemma run_endpoint_remove_bind {ids : ResourceIds} {name operation : String}
    {rest : Operation Unit} :
    (named name operation (PrivateEndpoint.remove ids) >>= fun _ => rest).run =
      deleting name operation ids.addressRecord privateDnsVersion
        (deleting name operation ids.privateEndpoint networkVersion rest.run) := by
  rw [ExceptT.run_bind, run_named, PrivateEndpoint.remove, ExceptT.run_bind, run_orAbsent_delete]
  change Program.ask _ _ = Program.ask _ _
  congr 1
  funext r
  change ((Program.bind (.done _) _).bind _).bind _ = _
  rw [Program.done_bind]
  cases settle () r with
  | error failure => rfl
  | ok u =>
    change ((ExceptT.run (Steps.orAbsent _ _)).bind _).bind _ = _
    rw [run_orAbsent_delete]
    change Program.ask _ _ = Program.ask _ _
    congr 1
    funext r
    beta_reduce
    cases settle () r <;> rfl

lemma run_account_remove_bind {ids : ResourceIds} {name operation : String}
    {rest : Operation Unit} :
    (named name operation (Account.remove ids) >>= fun _ => rest).run =
      deleting name operation ids.storageAccount storageVersion rest.run := by
  rw [ExceptT.run_bind, Account.remove, run_named_remove]
  change Program.ask _ _ = Program.ask _ _
  congr 1
  funext r
  cases r with
  | ok u => rfl
  | error failure =>
    by_cases hf : failure.isNotFound = true <;>
      simp [found, settle, Except.map, Except.mapError, hf]

lemma run_remove {namespaceName : String}
    (hn : bucket.metadata.namespaceName = some namespaceName) :
    (Storage.remove cluster bucket).run =
      deleting bucket.spec.name "delete private endpoint"
        (ResourceIds.of cluster bucket.spec.name).addressRecord privateDnsVersion
      (deleting bucket.spec.name "delete private endpoint"
        (ResourceIds.of cluster bucket.spec.name).privateEndpoint networkVersion
      (deleting bucket.spec.name "delete storage account"
        (ResourceIds.of cluster bucket.spec.name).storageAccount storageVersion
      (.ask (.deleteSecret namespaceName bucket.spec.name) .done))) := by
  rw [Storage.remove, namespaceOf, hn]
  change ExceptT.run (named _ _ (PrivateEndpoint.remove _) >>= fun _ =>
    named _ _ (Account.remove _) >>= fun _ => deleteSecret _ _) = _
  rw [run_endpoint_remove_bind, run_account_remove_bind]
  rfl

/-- The same deletion as it is served by a client. -/
def served (client : Client) (name operation path version : String)
    (rest : Option String → Program World (Except BucketOperator.Failure Unit × Option String))
    (token : Option String) : Program World (Except BucketOperator.Failure Unit × Option String) :=
  ((client.deleteResource path version).runFrom token).bind fun (r, token) =>
    match settle () r with
    | .ok () => rest token
    | .error failure => .done (.error (.provider name operation (.azure failure)), token)

lemma interpret_deleting {name operation path version : String}
    {rest : Program Api (Except BucketOperator.Failure Unit)} :
    (deleting name operation path version rest).interpret (Call.serve client) =
      served client name operation path version (rest.interpret (Call.serve client)) := by
  funext token
  rw [deleting, served, Program.interpret]
  congr 1
  funext answered
  cases hr : settle () answered.1 with
  | ok u => simp only [hr]
  | error failure =>
    simp only [hr]
    rfl

lemma runFrom_remove {namespaceName : String}
    (hn : bucket.metadata.namespaceName = some namespaceName) :
    (Storage.remove cluster bucket).runFrom client token =
      served client bucket.spec.name "delete private endpoint"
        (ResourceIds.of cluster bucket.spec.name).addressRecord privateDnsVersion
      (served client bucket.spec.name "delete private endpoint"
        (ResourceIds.of cluster bucket.spec.name).privateEndpoint networkVersion
      (served client bucket.spec.name "delete storage account"
        (ResourceIds.of cluster bucket.spec.name).storageAccount storageVersion
      fun token => (AccessSecret.remove client.patience namespaceName bucket.spec.name).bind
        fun r => .done (r, token))) token := by
  rw [Operation.runFrom, run_remove hn, interpret_deleting, interpret_deleting, interpret_deleting]
  congr 3
  funext token
  change ((AccessSecret.remove client.patience namespaceName bucket.spec.name).bind _).bind _ = _
  rw [Program.bind_assoc]
  rfl

lemma runFrom_remove_none (hn : bucket.metadata.namespaceName = none) :
    (Storage.remove cluster bucket).runFrom client token =
      .done (.error (.invalidBucket bucket.metadata.anyName "bucket has no namespace"), token) := by
  rw [Operation.runFrom, Storage.remove, namespaceOf, hn]
  rfl

/-- Where a removal has got to the secret, or has returned well. -/
def HasPassed (t : Trace World)
    (q : Program World (Except BucketOperator.Failure Unit × Option String)) : Prop :=
  (∃ token, q = .done (.ok (), token)) ∨ ∃ e ∈ t, IsKubernetes e

lemma not_hasPassed_failed {failure : BucketOperator.Failure} :
    ¬ HasPassed [] (.done (.error failure, token)) := by
  rintro (⟨_, ⟨⟩⟩ | ⟨_, hmem, _⟩)
  exact List.not_mem_nil hmem

/-- A deletion that was taken for done. It was confirmed, unless that was presumed. -/
structure Deletion (client : Client) (path version : String) (token : Option String)
    (t : Trace World) (token' : Option String) : Prop where
  settled : ∃ r, ((client.deleteResource path version).runFrom token).Yields t (r, token') ∧
    settle () r = .ok ()
  confirmed : IsConfirmed client path version t ↔ ¬ IsPresumed client t
  quiet : ∀ e ∈ t, ¬ IsKubernetes e

/-- Whoever has passed a deletion has taken it for done. -/
lemma deletion_of_served {name operation path version : String}
    {rest : Option String → Program World (Except BucketOperator.Failure Unit × Option String)}
    {q : Program World (Except BucketOperator.Failure Unit × Option String)}
    (h : (served client name operation path version rest token).After t q)
    (hpassed : HasPassed t q) :
    ∃ t₁ t₂ token', t = t₁ ++ t₂ ∧ Deletion client path version token t₁ token' ∧
      (rest token').After t₂ q ∧ HasPassed t₂ q := by
  rcases h.of_bind with ⟨t₁, t₂, ⟨r, token'⟩, rfl, hdelete, hrest⟩ | ⟨⟨m, hm⟩, hq⟩
  · have hquiet := isQuiet_deleteResource.not_isKubernetes hdelete
    have hpassed' : HasPassed t₂ q := by
      refine hpassed.imp_right ?_
      rintro ⟨e, he, hkubernetes⟩
      rcases List.mem_append.1 he with he | he
      · exact absurd hkubernetes (hquiet e he)
      · exact ⟨e, he, hkubernetes⟩
    have hheard := hearing_of_yields hdelete
    cases hr : settle () r with
    | ok u =>
      simp only [hr] at hrest
      refine ⟨t₁, t₂, token', rfl, ⟨⟨r, hdelete, hr⟩, ⟨?_, ?_⟩, hquiet⟩, hrest, hpassed'⟩
      · exact fun hconfirmed hpresumed => hheard.apart hpresumed hconfirmed
      · exact (hheard.settled.1 hr).resolve_right
    | error failure =>
      simp only [hr] at hrest
      obtain ⟨rfl, rfl⟩ := Program.after_done_iff.1 hrest
      exact absurd hpassed' not_hasPassed_failed
  · rcases hpassed with ⟨token', rfl⟩ | ⟨e, he, hkubernetes⟩
    · exact absurd rfl (hq _)
    · exact absurd hkubernetes (isQuiet_deleteResource.not_isKubernetes hm e he)

/-- A removal that has returned well, or has got to the secret, has deleted the address record, the
private endpoint and the account before, in this order. Each of these deletions was confirmed
exactly if it was not presumed. -/
theorem deletions_of_passed
    {q : Program World (Except BucketOperator.Failure Unit × Option String)}
    (h : ((Storage.remove cluster bucket).runFrom client token).After t q)
    (hpassed : HasPassed t q) :
    ∃ t₁ t₂ t₃ rest token₁ token₂ token₃, t = t₁ ++ t₂ ++ t₃ ++ rest ∧
      Deletion client (ResourceIds.of cluster bucket.spec.name).addressRecord privateDnsVersion
        token t₁ token₁ ∧
      Deletion client (ResourceIds.of cluster bucket.spec.name).privateEndpoint networkVersion
        token₁ t₂ token₂ ∧
      Deletion client (ResourceIds.of cluster bucket.spec.name).storageAccount storageVersion
        token₂ t₃ token₃ := by
  cases hn : bucket.metadata.namespaceName with
  | none =>
    rw [runFrom_remove_none hn] at h
    obtain ⟨rfl, rfl⟩ := Program.after_done_iff.1 h
    exact absurd hpassed not_hasPassed_failed
  | some namespaceName =>
    rw [runFrom_remove hn] at h
    obtain ⟨t₁, u₁, token₁, rfl, haddress, h₁, hpassed₁⟩ := deletion_of_served h hpassed
    obtain ⟨t₂, u₂, token₂, rfl, hendpoint, h₂, hpassed₂⟩ := deletion_of_served h₁ hpassed₁
    obtain ⟨t₃, rest, token₃, rfl, haccount, _, _⟩ := deletion_of_served h₂ hpassed₂
    exact ⟨t₁, t₂, t₃, rest, token₁, token₂, token₃, by simp, haddress, hendpoint, haccount⟩

/-! ### Runs of a removal -/

lemma yields_served {name operation path version : String} {u : Trace World}
    {rest : Option String → Program World (Except BucketOperator.Failure Unit × Option String)}
    {r : Except Failure Unit} {token' : Option String}
    {outcome : Except BucketOperator.Failure Unit × Option String}
    (h : ((client.deleteResource path version).runFrom token).Yields t (r, token'))
    (hr : settle () r = .ok ()) (hrest : (rest token').Yields u outcome) :
    (served client name operation path version rest token).Yields (t ++ u) outcome := by
  refine yields_bind_iff.2 ⟨t, u, (r, token'), rfl, h, ?_⟩
  simp only [hr]
  exact hrest

/-- A deletion without a token. -/
lemma yields_deleteResource_of_no_token {path version : String} {url : Url} {failure : Failure}
    (hurl : Client.resourceUrl client.base path version = .ok url)
    (h : client.credential.token.Yields t (.error failure)) :
    ((client.deleteResource path version).runFrom none).Yields t (.error failure, none) := by
  rw [runFrom_deleteResource, hurl]
  exact yields_bind_iff.2
    ⟨t, [], (.error failure, none), by simp, yields_send_of_no_token h, .here _⟩

end Stages

/-! ### A removal that removes nothing -/

section Stranger

open Reconcile (doomed strangerContext strangerClient strangerTrace exists_ok)

/-- What Kubernetes says of a secret that does not exist. -/
def absentSecret : Kubernetes.Reply :=
  .answered 404 <| .json <| .object [
    ("code", .int 404), ("kind", .string "Status"), ("reason", .string "NotFound")]

/-- Where there is no secret, there is nothing to remove. -/
lemma yields_remove_absent (patience : Nat) :
    ∃ request, (AccessSecret.remove patience "monitoring" "logs").Yields
      [⟨.kubernetes request, absentSecret⟩] (.ok ()) := by
  have hsome : (Kubernetes.Request.of? .get
      (Kubernetes.secrets "monitoring" ++ "/" ++ "logs" ++ "")).isSome = true := by
    decide +kernel
  obtain ⟨request, hrequest⟩ := Option.isSome_iff_exists.1 hsome
  refine ⟨request, ?_⟩
  have hread : (Kubernetes.get? Kubernetes.Secret.read (Kubernetes.secrets "monitoring")
      "logs").Yields [⟨.kubernetes request, absentSecret⟩] (.ok none) := by
    rw [Kubernetes.get?, Kubernetes.send, if_neg (by decide), hrequest]
    exact .answered (.here _)
  exact yields_bind_iff.2 ⟨_, [], .ok none, rfl, hread, .here _⟩

/-- The three resources of the bucket can be addressed. -/
lemma exists_url : ∀ resource ∈ [
    ((ResourceIds.of strangerContext "logs").addressRecord, privateDnsVersion),
    ((ResourceIds.of strangerContext "logs").privateEndpoint, networkVersion),
    ((ResourceIds.of strangerContext "logs").storageAccount, storageVersion)],
    (Client.resourceUrl managerUrl resource.1 resource.2).isOk = true := by
  decide +kernel

/-- A removal whose deletions all find nothing ends well. -/
lemma yields_remove_of_absent {client : Client} {token : Option String} {failure : Failure}
    {sent : Url → Trace World} (hbase : client.base = managerUrl)
    (hfailure : failure.isNotFound = true)
    (h : ∀ path version url, Client.resourceUrl client.base path version = .ok url →
      ((client.deleteResource path version).runFrom token).Yields (sent url)
        (.error failure, token)) :
    ∃ url₁ url₂ url₃ request,
      ((Storage.remove strangerContext doomed).runFrom client token).Yields
        (sent url₁ ++ (sent url₂ ++ (sent url₃ ++ [⟨.kubernetes request, absentSecret⟩])))
        (.ok (), token) := by
  have hsettled : settle () (.error failure : Except Failure Unit) = .ok () :=
    settle_eq_ok.2 (.inr (isAbsence_error.2 hfailure))
  have hurls := exists_url
  rw [← hbase] at hurls
  simp only [List.forall_mem_cons] at hurls
  obtain ⟨haddress, hendpoint, haccount, _⟩ := hurls
  obtain ⟨url₁, hurl₁⟩ := exists_ok haddress
  obtain ⟨url₂, hurl₂⟩ := exists_ok hendpoint
  obtain ⟨url₃, hurl₃⟩ := exists_ok haccount
  obtain ⟨request, hsecret⟩ := yields_remove_absent client.patience
  refine ⟨url₁, url₂, url₃, request, ?_⟩
  rw [runFrom_remove rfl]
  exact yields_served (h _ _ _ hurl₁) hsettled (yields_served (h _ _ _ hurl₂) hsettled
    (yields_served (h _ _ _ hurl₃) hsettled
      (yields_bind_iff.2 ⟨_, [], .ok (), rfl, hsecret, .here _⟩)))

/-- A bucket of which nothing was deleted is taken for removed. -/
theorem missing_token_hides_deletions :
    ¬ ∀ (client : Client) (cluster : AzureContext) (bucket : Bucket) (namespaceName : String)
      (token token' : Option String) (t : Trace World),
      bucket.metadata.namespaceName = some namespaceName →
      ((Storage.remove cluster bucket).runFrom client token).Yields t (.ok (), token') →
      ∃ t₁ t₂ t₃ rest, t = t₁ ++ t₂ ++ t₃ ++ rest ∧
        IsConfirmed client (ResourceIds.of cluster bucket.spec.name).addressRecord
          privateDnsVersion t₁ ∧
        IsConfirmed client (ResourceIds.of cluster bucket.spec.name).privateEndpoint
          networkVersion t₂ ∧
        IsConfirmed client (ResourceIds.of cluster bucket.spec.name).storageAccount
          storageVersion t₃ ∧
        ∀ e ∈ t₁ ++ t₂ ++ t₃, ¬ IsKubernetes e := by
  intro h
  obtain ⟨asked, hasked⟩ := exists_ok (x := metadataRequest metadataEndpoint "stranger")
    (by decide +kernel)
  have htoken : (strangerClient managerUrl).credential.token.Yields (strangerTrace asked)
      (.error (failureOf ⟨404, [], ""⟩)) :=
    Reconcile.yields_stranger_token hasked
  obtain ⟨_, _, _, request, hrun⟩ := yields_remove_of_absent rfl (isNotFound_failureOf.2 rfl)
    fun _ _ _ hurl => yields_deleteResource_of_no_token hurl htoken
  obtain ⟨t₁, t₂, t₃, rest, ht, ⟨url, response, _, hsent, _⟩, _⟩ :=
    h _ _ _ _ _ _ _ rfl hrun
  -- Only the metadata service and Kubernetes were asked.
  have hunsent : ¬ Sent (order url) response (strangerTrace asked) :=
    not_sent_of_explains (explains_token htoken)
  have hall : Sent (order url) response (t₁ ++ t₂ ++ t₃ ++ rest) := by
    simp only [sent_append, hsent, true_or]
  rw [← ht, sent_append, sent_append, sent_append, sent_cons (by rintro _ ⟨⟩)] at hall
  simp only [hunsent, false_or] at hall
  obtain ⟨_, hmem⟩ := hall
  exact List.not_mem_nil hmem

/-! ### A removal of nothing -/

/-- A client with a token. -/
def holder : Client := ⟨managerUrl, .fixed "token", .forCalls, .forPolls, 1⟩

/-- A deletion is answered with status 404. -/
def absentTrace (url : Url) : Trace World :=
  [⟨.clock, (0 : Nat)⟩, ⟨.http (bearing (order url) "token"), some ⟨404, [], ""⟩⟩]

lemma yields_deleteResource_absent {path version : String} {url : Url}
    (hurl : Client.resourceUrl holder.base path version = .ok url) :
    ((holder.deleteResource path version).runFrom (some "token")).Yields (absentTrace url)
      (.error (failureOf ⟨404, [], ""⟩), some "token") := by
  have hattempt : (Client.attempt "token" (order url)).Yields
      [⟨.http (bearing (order url) "token"), some ⟨404, [], ""⟩⟩] (.ok ⟨404, [], ""⟩) := by
    rw [attempt_eq, if_pos (by decide +kernel)]
    exact .answered (.here _)
  have hattempts : (Retry.inWorld (Client.attempt "token" (order url))
      (Retry.persist 1 Client.asksAgain .forCalls)).Yields (absentTrace url)
        (.ok ⟨404, [], ""⟩) := by
    rw [Retry.inWorld_persist]
    refine .answered ?_
    rw [Retry.inWorld_attemptFrom_succ]
    exact yields_bind_iff.2 ⟨_, [], _, rfl, hattempt, .here _⟩
  have hsend : ((holder.send (order url)).runFrom (some "token")).Yields (absentTrace url)
      (.error (failureOf ⟨404, [], ""⟩), some "token") := by
    rw [runFrom_send, runFrom_bearer_some, Program.done_bind, resume, runFrom_ofOutcome,
      Program.bind_assoc]
    exact yields_bind_iff.2 ⟨_, [], _, rfl, hattempts, .here _⟩
  rw [runFrom_deleteResource, hurl]
  exact yields_bind_iff.2 ⟨_, [], _, rfl, hsend, .here _⟩

theorem absent_deletions : ∃ t : Trace World,
    ((Storage.remove strangerContext doomed).runFrom holder (some "token")).Yields t
      (.ok (), some "token") ∧
    ∃ t₁ t₂ t₃ rest token₁ token₂ token₃, t = t₁ ++ t₂ ++ t₃ ++ rest ∧
      Deletion holder (ResourceIds.of strangerContext doomed.spec.name).addressRecord
        privateDnsVersion (some "token") t₁ token₁ ∧
      Deletion holder (ResourceIds.of strangerContext doomed.spec.name).privateEndpoint
        networkVersion token₁ t₂ token₂ ∧
      Deletion holder (ResourceIds.of strangerContext doomed.spec.name).storageAccount
        storageVersion token₂ t₃ token₃ := by
  obtain ⟨_, _, _, _, hrun⟩ := yields_remove_of_absent rfl
    (isNotFound_failureOf.2 rfl) fun _ _ _ hurl => yields_deleteResource_absent hurl
  exact ⟨_, hrun, deletions_of_passed hrun (.inl ⟨_, rfl⟩)⟩

end Stranger

end BucketOperator.Azure
