import BucketOperator.Proofs.Azure.Reading
import BucketOperator.Proofs.Azure.Removal

/-!
# Whether a bucket exists on Azure

The account is read first and, if it is there, the container with the same token. Each of the two
readings is a session of its own, so what is told by the whole is told by one of them.
-/

namespace BucketOperator.Azure

open Program (yields_bind_iff yields_done_iff)

/-- A request of a client for the resource at a path was answered. -/
def Client.Heard (client : Client) (path : String) (response : Http.Response)
    (t : Trace World) : Prop :=
  ∃ url, Client.resourceUrl client.base path storageVersion = .ok url ∧ Fetched url response t

section Existence

variable {client : Client} {cluster : AzureContext} {bucket : Bucket}
  {token token' : Option String} {t u : Trace World}
  {outcome : Except BucketOperator.Failure Bool}

/-- The account or the container was asked for, and is not there. -/
def SaysAbsent (client : Client) (ids : ResourceIds) (t : Trace World) : Prop :=
  ∃ response : Http.Response, response.status = 404 ∧
    (client.Heard ids.storageAccount response t ∨ client.Heard ids.container response t)

/-- The account and then the container were asked for, and could be read. -/
def SaysPresent (client : Client) (ids : ResourceIds) (t : Trace World) : Prop :=
  ∃ t₁ t₂, t = t₁ ++ t₂ ∧
    (∃ response, client.Heard ids.storageAccount response t₁ ∧ IsReadable response) ∧
    ∃ response, client.Heard ids.container response t₂ ∧ IsReadable response

/-! ### The two readings -/

/-- How the search goes on after the account. -/
def search (client : Client) (cluster : AzureContext) (bucket : Bucket) :
    Except Failure Json × Option String →
      Program World (Except BucketOperator.Failure Bool × Option String)
  | (r, token) =>
    match found bucket.spec.name "get storage account" r with
    | .ok true =>
      ((client.getResource (ResourceIds.of cluster bucket.spec.name).container
        storageVersion).runFrom token).bind fun
          | (r, token) => .done (found bucket.spec.name "get blob container" r, token)
    | .ok false => .done (.ok false, token)
    | .error failure => .done (.error failure, token)

lemma search_of_not_ok {r : Except Failure Json} (hr : ¬ ∃ value, r = .ok value) :
    search client cluster bucket (r, token) =
      .done (found bucket.spec.name "get storage account" r, token) := by
  have hne : found bucket.spec.name "get storage account" r ≠ .ok true :=
    fun h => hr (found_eq_true.1 h)
  simp only [search]
  split
  · contradiction
  next h => rw [h]
  next h => rw [h]

lemma run_doesExist :
    (Storage.doesExist cluster bucket).run =
      .ask (.get (ResourceIds.of cluster bucket.spec.name).storageAccount storageVersion) fun r =>
        match found bucket.spec.name "get storage account" r with
        | .ok true =>
          .ask (.get (ResourceIds.of cluster bucket.spec.name).container storageVersion) fun r =>
            .done (found bucket.spec.name "get blob container" r)
        | .ok false => .done (.ok false)
        | .error failure => .done (.error failure) := by
  change (ExceptT.run (named _ _ (Account.doesExist _))).bind _ = _
  rw [Account.doesExist, run_named_exists, Program.ask_bind]
  congr 1
  funext r
  rw [Program.done_bind]
  cases found bucket.spec.name "get storage account" r with
  | error failure => rfl
  | ok existed =>
    cases existed with
    | false => rfl
    | true => exact run_named_exists _ _ _ _

lemma runFrom_doesExist :
    (Storage.doesExist cluster bucket).runFrom client token =
      ((client.getResource (ResourceIds.of cluster bucket.spec.name).storageAccount
        storageVersion).runFrom token).bind (search client cluster bucket) := by
  rw [Operation.runFrom, run_doesExist, Program.interpret]
  congr 1
  funext x
  obtain ⟨r, current⟩ := x
  simp only [search]
  split <;> rfl

/-! ### What a reading says -/

lemma fetched_of_saysAbsent {ids : ResourceIds} (h : SaysAbsent client ids t) :
    ∃ url response, Fetched url response t ∧ response.status = 404 := by
  obtain ⟨response, hstatus, ⟨url, _, hfetched⟩ | ⟨url, _, hfetched⟩⟩ := h
  · exact ⟨url, response, hfetched, hstatus⟩
  · exact ⟨url, response, hfetched, hstatus⟩

lemma one_le_countP_isGranted {url : Url} {response : Http.Response}
    (h : Fetched url response t) (hreadable : IsReadable response) :
    1 ≤ t.countP isGranted := by
  obtain ⟨bearer, hmem⟩ := h
  rw [Nat.one_le_iff_ne_zero, Ne, List.countP_eq_zero]
  intro hnone
  apply hnone _ hmem
  simp [isGranted, fetch, hreadable.1]

/-- What the answers to a search for a bucket tell, and what the search returns. A token that was
not found is taken for a bucket that was not found; everything else is told apart. -/
structure Verdict (client : Client) (ids : ResourceIds) (t : Trace World)
    (outcome : Except BucketOperator.Failure Bool) : Prop where
  absent : outcome = .ok false ↔ client.credential.NotFound t ∨ SaysAbsent client ids t
  present : outcome = .ok true ↔ SaysPresent client ids t
  apart : client.credential.NotFound t → ¬ SaysAbsent client ids t
  failed : ∀ failure, outcome = .error failure →
    ∃ operation cause, failure = .provider ids.bucketName operation cause

lemma verdict_of_account {ids : ResourceIds} {r : Except Failure Json} {operation : String}
    (h : Reading client ids.storageAccount storageVersion token t r token')
    (hr : ¬ ∃ value, r = .ok value) :
    Verdict client ids t (found ids.bucketName operation r) := by
  constructor
  · rw [found_eq_false, h.absent]
    constructor
    · rintro (hmissing | ⟨url, response, hfetched, hstatus⟩)
      · exact .inl hmissing
      · exact .inr ⟨response, hstatus, .inl ⟨url, h.address url response hfetched, hfetched⟩⟩
    · rintro (hmissing | habsent)
      · exact .inl hmissing
      · exact .inr (fetched_of_saysAbsent habsent)
  · rw [found_eq_true, h.present]
    constructor
    · intro hreadable
      exact absurd (h.present.2 hreadable) hr
    · rintro ⟨t₁, t₂, rfl, ⟨response, ⟨url, _, hfetched⟩, hreadable⟩, _⟩
      exact ⟨url, response, fetched_append.2 (.inl hfetched), hreadable⟩
  · intro hmissing habsent
    obtain ⟨url, response, hfetched, _⟩ := fetched_of_saysAbsent habsent
    exact h.apart hmissing url response hfetched
  · intro failure hfailure
    obtain ⟨cause, rfl⟩ := found_eq_error hfailure
    exact ⟨operation, .azure cause, rfl⟩

/-- Where a granted answer was given once only, what is granted after it was granted elsewhere. -/
lemma fetched_of_saysPresent {ids : ResourceIds} (h : SaysPresent client ids (t ++ u))
    (honce : t.countP isGranted ≤ 1) :
    ∃ url response, Fetched url response u ∧ IsReadable response := by
  obtain ⟨a, b, heq, ⟨first, ⟨url₁, _, hfirst⟩, hread₁⟩, second, ⟨url₂, _, hsecond⟩, hread₂⟩ := h
  rcases List.append_eq_append_iff.1 heq with ⟨c, rfl, rfl⟩ | ⟨c, rfl, rfl⟩
  · exact ⟨url₂, second, fetched_append.2 (.inr hsecond), hread₂⟩
  · rcases fetched_append.1 hsecond with hsecond | hsecond
    · have hcount₁ := one_le_countP_isGranted hfirst hread₁
      have hcount₂ := one_le_countP_isGranted hsecond hread₂
      rw [List.countP_append] at honce
      omega
    · exact ⟨url₂, second, hsecond, hread₂⟩

lemma verdict_of_container {ids : ResourceIds} {value : Json} {r : Except Failure Json}
    {operation : String} {current : Option String}
    (h : Reading client ids.storageAccount storageVersion token t (.ok value) current)
    (h' : Reading client ids.container storageVersion current u r token') :
    Verdict client ids (t ++ u) (found ids.bucketName operation r) := by
  have hmissing : ¬ client.credential.NotFound (t ++ u) := by
    rw [notFound_append]
    rintro (hmissing | hmissing)
    · exact isAbsence_ok (h.absent.2 (.inl hmissing))
    · exact h'.known (h.kept ⟨value, rfl⟩) hmissing
  constructor
  · rw [found_eq_false, h'.absent, or_iff_right hmissing]
    constructor
    · rintro (hnone | ⟨url, response, hfetched, hstatus⟩)
      · exact absurd (notFound_append.2 (.inr hnone)) hmissing
      · refine ⟨response, hstatus, .inr ⟨url, h'.address url response hfetched, ?_⟩⟩
        exact fetched_append.2 (.inr hfetched)
    · intro habsent
      obtain ⟨url, response, hfetched, hstatus⟩ := fetched_of_saysAbsent habsent
      rcases fetched_append.1 hfetched with hfetched | hfetched
      · exact absurd (h.absent.2 (.inr ⟨url, response, hfetched, hstatus⟩)) isAbsence_ok
      · exact .inr ⟨url, response, hfetched, hstatus⟩
  · rw [found_eq_true, h'.present]
    constructor
    · rintro ⟨url, response, hfetched, hreadable⟩
      obtain ⟨url', response', hfetched', hreadable'⟩ := h.present.1 ⟨value, rfl⟩
      exact ⟨t, u, rfl,
        ⟨response', ⟨url', h.address url' response' hfetched', hfetched'⟩, hreadable'⟩,
        response, ⟨url, h'.address url response hfetched, hfetched⟩, hreadable⟩
    · intro hpresent
      exact fetched_of_saysPresent hpresent h.once
  · exact fun hnone => absurd hnone hmissing
  · intro failure hfailure
    obtain ⟨cause, rfl⟩ := found_eq_error hfailure
    exact ⟨operation, .azure cause, rfl⟩

/-- The verdict on a bucket follows from the answers. -/
theorem verdict_of_yields
    (h : ((Storage.doesExist cluster bucket).runFrom client token).Yields t (outcome, token')) :
    Verdict client (.of cluster bucket.spec.name) t outcome := by
  rw [runFrom_doesExist] at h
  obtain ⟨t₁, t₂, ⟨r, current⟩, rfl, haccount, hrest⟩ := yields_bind_iff.1 h
  have hreading := reading_of_yields haccount
  by_cases hr : ∃ value, r = .ok value
  · obtain ⟨value, rfl⟩ := hr
    obtain ⟨u₁, u₂, ⟨r', last⟩, rfl, hcontainer, hdone⟩ := yields_bind_iff.1 hrest
    obtain ⟨rfl, ⟨⟩⟩ := yields_done_iff.1 hdone
    rw [List.append_nil]
    exact verdict_of_container hreading (reading_of_yields hcontainer)
  · rw [search_of_not_ok hr] at hrest
    obtain ⟨rfl, ⟨⟩⟩ := yields_done_iff.1 hrest
    rw [List.append_nil]
    exact verdict_of_account hreading hr

/-- A search that gets no token ends with what it was told about the token. -/
lemma yields_of_no_token {url : Url} {failure : Failure}
    (hurl : Client.resourceUrl client.base
      (ResourceIds.of cluster bucket.spec.name).storageAccount storageVersion = .ok url)
    (h : client.credential.token.Yields t (.error failure)) :
    ((Storage.doesExist cluster bucket).runFrom client none).Yields t
      (found bucket.spec.name "get storage account" (.error failure : Except Failure Json),
        none) := by
  have hget : ((client.getResource (ResourceIds.of cluster bucket.spec.name).storageAccount
      storageVersion).runFrom none).Yields t (.error failure, none) := by
    rw [runFrom_getResource, hurl]
    exact yields_bind_iff.2
      ⟨t, [], (.error failure, none), by simp, yields_send_of_no_token h, .here _⟩
  rw [runFrom_doesExist]
  refine yields_bind_iff.2 ⟨t, [], (.error failure, none), by simp, hget, ?_⟩
  rw [search_of_not_ok (by rintro ⟨_, ⟨⟩⟩)]
  exact .here _

/-- The search for a bucket is only cut when as many attempts as are allowed were answered with a
passing trouble. -/
theorem patience_le_of_doesExist_cut (hretries : client.retries = Backoff.forCalls)
    (h : ((Storage.doesExist cluster bucket).runFrom client token).After t .cut) :
    client.patience ≤ t.countP isPassing := by
  rw [runFrom_doesExist, Program.bind_after_cut_iff] at h
  rcases h with h | ⟨t₁, t₂, ⟨r, current⟩, rfl, _, hrest⟩
  · exact patience_le_of_getResource_cut hretries h
  · rw [search] at hrest
    split at hrest
    · rcases Program.bind_after_cut_iff.1 hrest with hrest | ⟨_, _, _, _, _, hdone⟩
      · have hcount := patience_le_of_getResource_cut hretries hrest
        rw [List.countP_append]
        omega
      · exact absurd hdone Program.not_done_after_cut
    · exact absurd hrest Program.not_done_after_cut
    · exact absurd hrest Program.not_done_after_cut

end Existence

end BucketOperator.Azure
