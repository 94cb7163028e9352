import BucketOperator.Azure.Serve
import BucketOperator.Proofs.Program.Trace

/-!
# Sessions as programs

How the steps of a session follow one another as programs of the world, and which of their
failures tell of something absent: only answers with status 404 do.
-/

namespace BucketOperator.Azure

/-! ### Sessions as programs -/

section Sessions

variable {α β : Type}

/-- How a session goes on with the token after its first part. -/
def resume (f : α → Session β) :
    Except Failure α × Option String → Program World (Except Failure β × Option String)
  | (.ok a, token) => (f a).runFrom token
  | (.error failure, token) => .done (.error failure, token)

lemma runFrom_bind (x : Session α) (f : α → Session β) (token : Option String) :
    (x >>= f).runFrom token = (x.runFrom token).bind (resume f) := by
  change ((ExceptT.run x).run token).bind _ = _
  congr 1
  funext ⟨r, token⟩
  cases r <;> rfl

lemma runFrom_ofOutcome (program : Program World (Except Failure α)) (token : Option String) :
    (Session.ofOutcome program).runFrom token = program.bind fun r => .done (r, token) := rfl

lemma runFrom_ofExcept (outcome : Except Failure α) (token : Option String) :
    (liftM outcome : Session α).runFrom token = .done (outcome, token) := by
  cases outcome <;> rfl

/-- A session ends with a failure of its first part, or else the rest has run. -/
lemma yields_resume_iff {p : Program World (Except Failure α × Option String)} {f : α → Session β}
    {t : Trace World} {outcome : Except Failure β} {token : Option String} :
    (p.bind (resume f)).Yields t (outcome, token) ↔
      (∃ failure, p.Yields t (.error failure, token) ∧ outcome = .error failure) ∨
        ∃ t₁ t₂ a current, t = t₁ ++ t₂ ∧ p.Yields t₁ (.ok a, current) ∧
          ((f a).runFrom current).Yields t₂ (outcome, token) := by
  rw [Program.yields_bind_iff]
  constructor
  · rintro ⟨t₁, t₂, ⟨failure | a, current⟩, rfl, hp, hrest⟩
    · obtain ⟨rfl, ⟨⟩⟩ := Program.yields_done_iff.1 hrest
      rw [List.append_nil]
      exact .inl ⟨failure, hp, rfl⟩
    · exact .inr ⟨t₁, t₂, a, current, rfl, hp, hrest⟩
  · rintro (⟨failure, hp, rfl⟩ | ⟨t₁, t₂, a, current, rfl, hp, hrest⟩)
    · exact ⟨t, [], _, (List.append_nil t).symm, hp, .here _⟩
    · exact ⟨t₁, t₂, _, rfl, hp, hrest⟩

/-- What is read of a result is read without asking anything. -/
lemma yields_read_iff {p : Program World (Except Failure α × Option String)}
    {read : α → Except Failure β} {t : Trace World} {outcome : Except Failure β}
    {token : Option String} :
    (p.bind (resume fun a => liftM (read a))).Yields t (outcome, token) ↔
      ∃ r, p.Yields t (r, token) ∧ outcome = r.bind read := by
  rw [yields_resume_iff]
  constructor
  · rintro (⟨failure, hp, rfl⟩ | ⟨t₁, t₂, a, current, rfl, hp, hread⟩)
    · exact ⟨_, hp, rfl⟩
    · rw [runFrom_ofExcept] at hread
      obtain ⟨rfl, ⟨⟩⟩ := Program.yields_done_iff.1 hread
      rw [List.append_nil]
      exact ⟨_, hp, rfl⟩
  · rintro ⟨failure | a, hp, rfl⟩
    · exact .inl ⟨failure, hp, rfl⟩
    · refine .inr ⟨t, [], a, token, (List.append_nil t).symm, hp, ?_⟩
      rw [runFrom_ofExcept]
      exact .here _

lemma runFrom_bearer_some (client : Client) (token : String) :
    client.bearer.runFrom (some token) = .done (.ok token, some token) := rfl

lemma runFrom_bearer_none (client : Client) :
    client.bearer.runFrom none = client.credential.token.bind fun
      | .ok token => .done (.ok token, some token)
      | .error failure => .done (.error failure, none) := by
  change (client.credential.token.bind _).bind _ = _
  rw [Program.bind_assoc]
  congr 1
  funext r
  cases r <;> rfl

/-- What an answer without success stands for, and else what it says. -/
def judge (outcome : Except Failure Http.Response) : Except Failure Http.Response :=
  outcome.bind fun response =>
    if response.isSuccess then .ok response else .error (failureOf response)

lemma runFrom_send (client : Client) (request : Http.Request) (token : Option String) :
    (client.send request).runFrom token = (client.bearer.runFrom token).bind (resume fun bearer =>
      Session.ofOutcome <| (Retry.inWorld (Client.attempt bearer request)
        (Retry.persist client.patience Client.asksAgain client.retries)).bind fun outcome =>
          .done (judge outcome)) := by
  rw [Client.send, runFrom_bind]
  congr 1
  funext ⟨r, token⟩
  cases r with
  | error failure => rfl
  | ok bearer =>
    simp only [resume]
    rw [runFrom_bind, runFrom_ofOutcome, runFrom_ofOutcome, Program.bind_assoc,
      Program.bind_assoc]
    congr 1
    funext outcome
    cases outcome with
    | error failure => rfl
    | ok response =>
      simp only [Program.done_bind, resume, judge, Except.bind]
      split <;> rfl

lemma runFrom_getResource (client : Client) (path version : String) (token : Option String) :
    (client.getResource path version).runFrom token =
      match Client.resourceUrl client.base path version with
      | .error failure => .done (.error failure, token)
      | .ok url => ((client.send ⟨.get, url, [], none⟩).runFrom token).bind
          (resume fun response => liftM (bodyOf response)) := by
  rw [Client.getResource, runFrom_bind, Client.sendFor, runFrom_bind, runFrom_ofExcept]
  cases Client.resourceUrl client.base path version <;> rfl

lemma runFrom_postResource (client : Client) (path version : String) (token : Option String) :
    (client.postResource path version).runFrom token =
      match Client.resourceUrl client.base path version with
      | .error failure => .done (.error failure, token)
      | .ok url => ((client.send ⟨.post, url, [], some (.json (.object []))⟩).runFrom token).bind
          (resume fun response => liftM (bodyOf response)) := by
  rw [Client.postResource, runFrom_bind, Client.sendFor, runFrom_bind, runFrom_ofExcept]
  cases Client.resourceUrl client.base path version <;> rfl

end Sessions

/-! ### Bodies -/

/-- What an answer reads: nothing as null, and else the JSON that it is. -/
inductive Reads (answer : Http.Response) : Except Failure Json → Prop where
  | empty (hbody : answer.body = "") : Reads answer (.ok .null)
  | json {value : Json} (hbody : answer.body ≠ "")
      (hvalue : Json.parse? answer.body = some value) : Reads answer (.ok value)
  | undecodable (hbody : answer.body ≠ "") (hvalue : Json.parse? answer.body = none) :
      Reads answer (.error .undecodable)

lemma reads_iff {answer : Http.Response} {r : Except Failure Json} :
    Reads answer r ↔ r = bodyOf answer := by
  rw [bodyOf]
  constructor
  · intro h
    cases h with
    | empty hbody => rw [if_pos hbody]
    | json hbody hvalue => rw [if_neg hbody, hvalue]
    | undecodable hbody hvalue => rw [if_neg hbody, hvalue]
  · rintro rfl
    split
    next hbody => exact .empty hbody
    next hbody =>
      split
      next value hvalue => exact .json hbody hvalue
      next hvalue => exact .undecodable hbody hvalue

/-! ### Absence -/

/-- Whether an outcome tells that something is absent. -/
def IsAbsence {α : Type} (r : Except Failure α) : Prop :=
  ∃ failure, r = .error failure ∧ failure.isNotFound = true

section Absence

variable {α β : Type}

@[simp] lemma isAbsence_ok {a : α} : ¬ IsAbsence (.ok a : Except Failure α) := by
  simp [IsAbsence]

@[simp] lemma isAbsence_error {failure : Failure} :
    IsAbsence (.error failure : Except Failure α) ↔ failure.isNotFound = true := by
  simp [IsAbsence]

/-- An answer tells of something absent exactly by its status. -/
lemma isNotFound_failureOf {response : Http.Response} :
    (failureOf response).isNotFound = true ↔ response.status = 404 := by
  simp only [failureOf, Failure.isNotFound]
  split <;> simp_all

lemma not_isSuccess_of_status {response : Http.Response} (h : response.status = 404) :
    response.isSuccess = false := by
  simp [Http.Response.isSuccess, h]

lemma not_isNotFound_parseUrl {text : String} {failure : Failure}
    (h : parseUrl text = .error failure) : failure.isNotFound = false := by
  rw [parseUrl] at h
  cases hp : Url.parse text with
  | ok url => simp [hp, Except.mapError] at h
  | error e =>
    rw [hp] at h
    cases h
    rfl

lemma not_isNotFound_bodyOf {response : Http.Response} {failure : Failure}
    (h : bodyOf response = .error failure) : failure.isNotFound = false := by
  cases reads_iff.2 h.symm
  rfl

lemma not_isNotFound_resourceUrl {base : Url} {path version : String} {failure : Failure}
    (h : Client.resourceUrl base path version = .error failure) :
    failure.isNotFound = false := by
  rw [Client.resourceUrl] at h
  cases hj : base.join path with
  | ok url => simp [hj, Except.mapError, Except.map] at h
  | error e =>
    rw [hj] at h
    cases h
    rfl

end Absence

end BucketOperator.Azure
