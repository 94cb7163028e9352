import BucketOperator.Proofs.Azure.LongRunning
import BucketOperator.Proofs.Azure.Policy
import BucketOperator.Proofs.Azure.Removal
import BucketOperator.Proofs.Json.Members

/-!
# Toggling the expiration

The expiration of blobs is set and removed by calls that come one after the other. What is left
depends on the last one only, and the rules of others are kept as they are.
-/

namespace BucketOperator.Azure

open Lifecycle
open Program (Returns yields_bind_iff)

-- What these sessions ask for is told by lemmas and must not be computed.
attribute [local irreducible] Client.getResource Client.putResource Client.deleteResource

/-- The rules of a policy are the items of the array at its place in the document. Without a policy,
or without an array there, there are none. -/
def rulesOf (policy : Option Json) : List Json :=
  Json.itemsOf
    (((policy.bind (·.get? "properties")).bind (·.get? "policy")).bind (·.get? "rules"))

/-- The name of a rule, if it is a text. -/
def nameOf (rule : Json) : Option String := Json.textOf (rule.get? "name")

/-- The rules of others, in order. -/
def foreign (rules : List Json) : List Json :=
  rules.filter fun rule => nameOf rule ≠ some "ExpirationLogging"

/-- The rule that deletes block blobs that were not modified for some days. -/
def ruleFor : Option Int32 → List Json
  | some days => [.object [
      ("definition", .object [
        ("actions", .object [("baseBlob", .object [("delete", .object [
          ("daysAfterModificationGreaterThan", .number (.integer days.toInt))])])]),
        ("filters", .object [("blobTypes", .array [.string "blockBlob"])])]),
      ("enabled", .bool true),
      ("name", .string "ExpirationLogging"),
      ("type", .string "Lifecycle")]]
  | none => []

/-! ### Rules -/

section Rules

variable {rules : List Json} {rule policy : Json} {days : Option Int32}

lemma policyRules_eq : policyRules policy = rulesOf (some policy) := by
  have hpath : policy.path? ["properties", "policy", "rules"] =
      (((some policy).bind (·.get? "properties")).bind (·.get? "policy")).bind
        (·.get? "rules") := by
    simp only [Json.path?, Option.bind_assoc, Option.bind_some, Option.bind_fun_some]
  rw [policyRules, Json.getD_array?, hpath, rulesOf]

lemma isOwned_iff : isOwned rule = true ↔ nameOf rule = some "ExpirationLogging" := by
  rw [isOwned, beq_iff_eq, Json.bind_string?]
  rfl

lemma withoutExpiration_eq : withoutExpiration rules = foreign rules := by
  refine List.filter_congr fun rule _ => ?_
  rw [Bool.eq_iff_iff, Bool.not_eq_true', ← Bool.not_eq_true, isOwned_iff, decide_eq_true_iff]

lemma withExpiration_eq {days : Int32} :
    withExpiration rules days = foreign rules ++ ruleFor (some days) := by
  rw [withExpiration, withoutExpiration_eq]
  rfl

lemma rulesOf_policyBody : rulesOf (some (policyBody rules)) = rules := rfl

lemma foreign_ruleFor : foreign (ruleFor days) = [] := by
  cases days with
  | none => rfl
  | some days => rfl

/-- Setting the expiration does not depend on how it was set before. -/
lemma foreign_toggled : foreign (foreign rules ++ ruleFor days) = foreign rules := by
  have hagain : foreign (foreign rules) = foreign rules := by simp [foreign]
  have happend : foreign (foreign rules ++ ruleFor days) =
      foreign (foreign rules) ++ foreign (ruleFor days) := List.filter_append ..
  rw [happend, hagain, foreign_ruleFor, List.append_nil]

lemma foreign_of_forall (h : ∀ rule ∈ rules, nameOf rule ≠ some "ExpirationLogging") :
    foreign rules = rules :=
  List.filter_eq_self.2 fun rule hrule => decide_eq_true (h rule hrule)

end Rules

/-! ### One call -/

/-- How a call goes on after the rules in place were read. -/
def proceed (ids : ResourceIds) (days : Option Int32) (rules : Option (List Json)) : Steps Unit :=
  match days, rules with
  | some days, rules => putRules ids (withExpiration (rules.getD []) days)
  | none, none => return ()
  | none, some rules =>
    if rules.any isOwned then
      match withoutExpiration rules with
      | [] => Steps.orAbsent (Steps.delete ids.managementPolicy storageVersion) ()
      | remaining => putRules ids remaining
    else return ()

section Calls

variable {ids : ResourceIds} {days : Option Int32} {policy : Option Json} {allowed : Prop}

lemma apply_eq : Lifecycle.apply ids days = currentRules? ids >>= proceed ids days := by
  cases days with
  | some days => rfl
  | none =>
    change _ >>= _ = _ >>= _
    congr 1

lemma run_currentRules? : (currentRules? ids).run =
    .ask (.get ids.managementPolicy storageVersion) fun r =>
      .done (settle none (Except.map (fun policy => some (policyRules policy)) r)) := by
  rw [currentRules?, run_orAbsent, run_map]
  rfl

lemma run_putRules {rules : List Json} : (putRules ids rules).run =
    .ask (.put ids.managementPolicy storageVersion (policyBody rules)) fun r =>
      .done (Except.map (fun _ => ()) r) := by
  change Program.ask _ _ = Program.ask _ _
  congr 1
  funext (r : Except Failure Json)
  cases r <;> rfl

/-- Whether a call may change the policy: it sets the expiration, or finds it set. -/
def MayChange (days : Option Int32) (policy : Option Json) : Prop :=
  days.isSome = true ∨ ∃ rule ∈ rulesOf policy, nameOf rule = some "ExpirationLogging"

/-- The rules in place are replaced. -/
lemma ensures_putRules {rules : List Json} (hallowed : MayChange days policy)
    (hrules : rules = foreign (rulesOf policy) ++ ruleFor days) :
    (putRules ids rules).run.Ensures governing
      (fun _ c => IsAbout ids.managementPolicy storageVersion (MayChange days policy) c)
      (fun s o => o = some (.ok ()) →
        rulesOf s = foreign (rulesOf policy) ++ ruleFor days) policy := by
  rw [run_putRules]
  refine ⟨⟨rfl, rfl, hallowed⟩, ?_⟩
  rintro (r : Except Failure Json) s ⟨-, hgranted⟩
  cases r with
  | error failure => rintro ⟨⟩
  | ok value =>
    cases hgranted value rfl
    intro _
    exact rulesOf_policyBody.trans hrules

/-- What was read are the rules in place. -/
lemma eq_of_settle {r : Except Failure Json} {rules : Option (List Json)}
    (hfound : ∀ value, r = .ok value → policy = some value) (habsent : IsAbsence r → policy = none)
    (h : settle none (r.map fun policy => some (policyRules policy)) = .ok rules) :
    rules = policy.map policyRules := by
  cases r with
  | ok value =>
    cases h
    rw [hfound value rfl]
    rfl
  | error failure =>
    simp only [settle, Except.map] at h
    split at h
    next hnotFound =>
      cases h
      rw [habsent (isAbsence_error.2 hnotFound)]
      rfl
    · cases h

/-- Where there is no rule to remove, nothing is to be done. -/
lemma rulesOf_of_not_owned (h : ¬ (rulesOf policy).any isOwned = true) :
    rulesOf policy = foreign (rulesOf policy) ++ ruleFor none := by
  refine (foreign_of_forall ?_).symm.trans (List.append_nil _).symm
  intro rule hrule hname
  exact h (List.any_eq_true.2 ⟨rule, hrule, isOwned_iff.2 hname⟩)

/-- A call goes on with the rules in place to leave the rules of others and its own. -/
lemma ensures_proceed : (proceed ids days (policy.map policyRules)).run.Ensures governing
    (fun _ c => IsAbout ids.managementPolicy storageVersion (MayChange days policy) c)
    (fun s o => o = some (.ok ()) →
      rulesOf s = foreign (rulesOf policy) ++ ruleFor days) policy := by
  cases days with
  | some days =>
    refine ensures_putRules (.inl rfl) ?_
    cases policy with
    | none => rfl
    | some value =>
      change withExpiration (policyRules value) days = _
      rw [withExpiration_eq, policyRules_eq]
  | none =>
    cases policy with
    | none => exact fun _ => rfl
    | some value =>
      change (if (policyRules value).any isOwned = true then _ else _ : Steps Unit).run.Ensures
        _ _ _ _
      rw [policyRules_eq, withoutExpiration_eq]
      split
      next howned =>
        have hmay : MayChange none (some value) := by
          obtain ⟨rule, hrule, hname⟩ := List.any_eq_true.1 howned
          exact .inr ⟨rule, hrule, isOwned_iff.1 hname⟩
        split
        next hempty =>
          -- The policy is removed and not emptied, which leaves the same rules.
          rw [run_orAbsent_delete]
          refine ⟨⟨rfl, rfl, hmay⟩, ?_⟩
          rintro (r : Except Failure Unit) s ⟨-, hremoved⟩ hsettled
          cases hremoved (settle_eq_ok.1 (Option.some.inj hsettled))
          rw [hempty]
          rfl
        next => exact ensures_putRules hmay (List.append_nil _).symm
      next hnone => exact fun _ => rulesOf_of_not_owned hnone

lemma run_apply : (Lifecycle.apply ids days).run =
    .ask (.get ids.managementPolicy storageVersion) fun (r : Except Failure Json) =>
      match settle none (r.map fun policy => some (policyRules policy)) with
      | .ok rules => (proceed ids days rules).run
      | .error failure => .done (.error failure) := by
  rw [apply_eq, ExceptT.run_bind, Program.bind_eq, run_currentRules?, Program.ask_bind]
  congr 1
  funext (r : Except Failure Json)
  cases settle none (r.map fun policy => some (policyRules policy)) <;> rfl

/-- A call that succeeds leaves the rules of others and its own. -/
theorem ensures_apply : (Lifecycle.apply ids days).run.Ensures governing
    (fun _ c => IsAbout ids.managementPolicy storageVersion (MayChange days policy) c)
    (fun s o => o = some (.ok ()) →
      rulesOf s = foreign (rulesOf policy) ++ ruleFor days) policy := by
  rw [run_apply]
  refine ⟨⟨rfl, rfl⟩, ?_⟩
  rintro (r : Except Failure Json) s ⟨rfl, hfound, habsent⟩
  simp only
  split
  next rules hsettled =>
    cases eq_of_settle hfound habsent hsettled
    exact ensures_proceed
  next => exact nofun

end Calls

/-! ### Calls by a client -/

/-- A call as it is made by a client. -/
def toggle (client : Client) (ids : ResourceIds) (days : Option Int32) (token : Option String) :
    Program World (Except Failure Unit × Option String) :=
  (Lifecycle.apply ids days).run.interpret (Call.serve client) token

/-- Successful calls, each by a client that has a token, one after the other. -/
inductive Toggles (client : Client) (ids : ResourceIds) (place : Url) :
    List (Option Int32) → Option Json → Option Json → Prop where
  | nil (policy : Option Json) : Toggles client ids place [] policy policy
  | cons {days : Option Int32} {rest : List (Option Int32)} {policy policy' policy'' : Option Json}
      {t : Trace World} {bearer : String} {token' : Option String}
      (h : (toggle client ids days (some bearer)).Yields t (.ok (), token'))
      (hworld : Along (storing place) policy t policy')
      (hrest : Toggles client ids place rest policy' policy'') :
      Toggles client ids place (days :: rest) policy policy''

section Toggling

variable {client : Client} {ids : ResourceIds} {place : Url} {days : Option Int32}
  {policy policy' : Option Json} {token : Option String} {t u : Trace World}

/-- What a call guarantees when it is made by a client with a token. -/
theorem ensures_toggle
    (hplace : Client.resourceUrl client.base ids.managementPolicy storageVersion = .ok place)
    (htoken : token.isSome = true) :
    (toggle client ids days token).Ensures (storing place)
      (fun _ c => IsChange c → MayChange days policy)
      (Returns (fun s x => x.1 = .ok () →
        rulesOf s = foreign (rulesOf policy) ++ ruleFor days) fun _ => True) policy := by
  have hserve : ∀ (s : Option Json) (c : Call) (token : Option String), token.isSome = true →
      IsAbout ids.managementPolicy storageVersion (MayChange days policy) c →
      (c.serve client token).Ensures (storing place) (fun _ c => IsChange c → MayChange days policy)
        (Returns (fun s' r => governing s c r.1 s' ∧ r.2.isSome = true) fun _ => True) s := by
    intro s c token htoken hc
    exact ensures_serve_storing hplace (fun _ h => h) hc htoken
  refine (ensures_apply.interpret hserve (fun _ _ => trivial) htoken).mono (fun _ _ h => h) ?_
  rintro s (_ | ⟨r, token⟩) h
  · trivial
  · intro hr
    exact h.1 (congrArg some hr)

lemma rulesOf_of_toggle
    (hplace : Client.resourceUrl client.base ids.managementPolicy storageVersion = .ok place)
    {bearer : String} {token' : Option String}
    (h : (toggle client ids days (some bearer)).Yields t (.ok (), token'))
    (hworld : Along (storing place) policy t policy') :
    rulesOf policy' = foreign (rulesOf policy) ++ ruleFor days := by
  have hends := (ensures_toggle hplace rfl).along h hworld
  exact hends rfl

/-- What is left depends on the last call only. -/
lemma Toggles.rules
    (hplace : Client.resourceUrl client.base ids.managementPolicy storageVersion = .ok place)
    {before : List (Option Int32)}
    (h : Toggles client ids place (before ++ [days]) policy policy') :
    rulesOf policy' = foreign (rulesOf policy) ++ ruleFor days := by
  induction before generalizing policy with
  | nil =>
    cases h with
    | cons h hworld hrest =>
      cases hrest
      exact rulesOf_of_toggle hplace h hworld
  | cons first before ih =>
    cases h with
    | cons h hworld hrest =>
      rw [ih hrest, rulesOf_of_toggle hplace h hworld, foreign_toggled]

/-- A call that cannot read the policy sends nothing else. -/
lemma eq_of_unread {failure : Failure} {token' : Option String}
    {q : Program World (Except Failure Unit × Option String)}
    (hread : ((client.getResource ids.managementPolicy storageVersion).runFrom token).Yields t
      (.error failure, token'))
    (hfailure : failure.isNotFound = false) (hq : (toggle client ids days token).After (t ++ u) q) :
    u = [] ∧ q = .done (.error failure, token') := by
  unfold toggle at hq
  simp only [run_apply, Program.interpret, Call.serve] at hq
  have hrest := hread.after_bind hq
  have hsettled : settle none
      ((.error failure : Except Failure Json).map fun policy => some (policyRules policy)) =
        .error failure := by
    rw [Except.map, settle, hfailure]
    rfl
  simp only [hsettled] at hrest
  exact Program.after_done_iff.1 hrest

/-- After successful calls, the rules of others are as they were before, in order, and followed by
the operator's as the last call wanted it. Repeating the last call changes no rule. A call that
finds nothing to remove changes nothing, and one that cannot read the policy does nothing else. -/
theorem expiration_converges
    (hplace : Client.resourceUrl client.base ids.managementPolicy storageVersion = .ok place) :
    (∀ before days policy policy', Toggles client ids place (before ++ [days]) policy policy' →
      rulesOf policy' = foreign (rulesOf policy) ++ ruleFor days) ∧
    (∀ before days policy policy' policy'',
      Toggles client ids place (before ++ [days]) policy policy' →
      Toggles client ids place [days] policy' policy'' → rulesOf policy'' = rulesOf policy') ∧
    (∀ policy policy' bearer t q,
      (∀ rule ∈ rulesOf policy, nameOf rule ≠ some "ExpirationLogging") →
      (toggle client ids none (some bearer)).After t q →
      Along (storing place) policy t policy' → ∀ e ∈ t, ¬ IsChange e.call) ∧
    ∀ days token t u q failure token',
      ((client.getResource ids.managementPolicy storageVersion).runFrom token).Yields t
        (.error failure, token') →
      failure.isNotFound = false → (toggle client ids days token).After (t ++ u) q →
        u = [] ∧ q = .done (.error failure, token') := by
  refine ⟨fun _ _ _ _ h => h.rules hplace, ?_, ?_, fun _ _ _ _ _ _ _ => eq_of_unread⟩
  · intro before days policy policy' policy'' h hagain
    have hlast : Toggles client ids place ([] ++ [days]) policy' policy'' := hagain
    rw [hlast.rules hplace, h.rules hplace, foreign_toggled]
  · intro policy policy' bearer t q hforeign hq hworld e he hchange
    have htoken : (some bearer).isSome = true := rfl
    obtain ⟨_, hmay⟩ := (ensures_toggle hplace htoken).asked_of_mem hq hworld he
    rcases hmay hchange with ⟨⟨⟩⟩ | ⟨rule, hrule, hname⟩
    exact hforeign rule hrule hname

end Toggling

/-! ### A rule of somebody else -/

section Archive

variable {ids : ResourceIds} {place : Url} {policy : Json} {days : Option Int32}

/-- A rule of somebody else. -/
def archiveRule : Json := .object [("name", .string "archive")]

/-- A rule of the operator that has no effect. -/
def emptyRule : Json := .object [("name", .string "ExpirationLogging")]

/-- A policy with some rules. -/
def policyOf (rules : List Json) : Json :=
  .object [("properties", .object [("policy", .object [("rules", .array rules)])])]

/-- The answer that shows both rules. -/
def bothAnswer : Http.Response where
  status := 200
  headers := []
  body := "\x7b\"properties\":\x7b\"policy\":\x7b\"rules\":[\x7b\"name\":\"archive\"\x7d," ++
    "\x7b\"name\":\"ExpirationLogging\"\x7d]\x7d\x7d\x7d"

/-- The answer that shows the rule of somebody else. -/
def archiveAnswer : Http.Response where
  status := 200
  headers := []
  body := "\x7b\"properties\":\x7b\"policy\":\x7b\"rules\":" ++
    "[\x7b\"name\":\"archive\"\x7d]\x7d\x7d\x7d"

/-- The answer that grants a change. -/
def grantingAnswer : Http.Response := ⟨200, [], ""⟩

lemma bodyOf_eq_ok {answer : Http.Response} {value : Json} (hbody : answer.body ≠ "")
    (h : (Json.parse? answer.body).any (Json.same value) = true) : bodyOf answer = .ok value := by
  obtain ⟨parsed, hparsed, hsame⟩ := (Option.any_eq_true _ _).1 h
  rw [bodyOf, if_neg hbody, hparsed, Json.eq_of_same hsame]

/-- A run of a call that replaces the rules. -/
def replacingRun (place : Url) (answer : Http.Response) (rules : List Json) : Trace World :=
  answered "token" (inquiry place) (some answer) ++
    answered "token" (creation place (policyOf rules)) (some grantingAnswer)

lemma yields_replacingRun {answer : Http.Response} {rules : List Json}
    (hplace : Client.resourceUrl creator.base ids.managementPolicy storageVersion = .ok place)
    (hsuccess : answer.isSuccess = true) (hbody : bodyOf answer = .ok policy)
    (hproceed : proceed ids days (some (policyRules policy)) = putRules ids rules) :
    (toggle creator ids days (some "token")).Yields (replacingRun place answer rules)
      (.ok (), some "token") := by
  have hget : ((creator.getResource ids.managementPolicy storageVersion).runFrom
      (some "token")).Yields (answered "token" (inquiry place) (some answer))
        (.ok policy, some "token") := by
    rw [runFrom_getResource, hplace]
    refine yields_bind_iff.2 ⟨_, [], _, (List.append_nil _).symm, yields_send_granted hsuccess, ?_⟩
    rw [resume, hbody, runFrom_ofExcept]
    exact .here _
  have hput : ((creator.putResource ids.managementPolicy storageVersion (policyOf rules)).runFrom
      (some "token")).Yields
        (answered "token" (creation place (policyOf rules)) (some grantingAnswer))
        (.ok .null, some "token") := by
    have hstarts : operationOf creationAccepted grantingAnswer = .ok none :=
      (starts_iff.1 (.finished rfl (by decide))).2
    rw [runFrom_putResource, hplace]
    refine yields_bind_iff.2 ⟨_, [], _, (List.append_nil _).symm, yields_send_granted rfl, ?_⟩
    rw [resume, runFrom_bind, runFrom_conclude, hstarts]
    exact .here _
  unfold toggle
  simp only [run_apply, Program.interpret, Call.serve]
  refine yields_bind_iff.2 ⟨_, _, _, rfl, hget, ?_⟩
  have hsettled : settle none ((.ok policy : Except Failure Json).map fun policy =>
      some (policyRules policy)) = .ok (some (policyRules policy)) := rfl
  simp only [hsettled, hproceed, run_putRules, Program.interpret, Call.serve]
  exact yields_bind_iff.2 ⟨_, [], _, (List.append_nil _).symm, hput, .here _⟩

lemma along_replacingRun {answer : Http.Response} {rules : List Json}
    (hfound : answer.isSuccess = true) (hbody : bodyOf answer = .ok policy) :
    Along (storing place) (some policy) (replacingRun place answer rules)
      (some (policyOf rules)) := by
  have hshows : Shows (some policy) answer := by
    refine ⟨fun _ => ⟨policy, rfl, reads_iff.2 hbody.symm⟩, ?_⟩
    intro hstatus
    rw [Http.Response.isSuccess, hstatus] at hfound
    cases hfound
  have hread : Along (storing place) (some policy) (answered "token" (inquiry place) (some answer))
      (some policy) := by
    refine .cons rfl (.cons (storing_get.2 ⟨rfl, ?_⟩) (.nil _))
    rintro _ ⟨⟩
    exact hshows
  refine hread.append (.cons rfl (.cons (storing_put.2 ⟨.inr rfl, ?_⟩) (.nil _)))
  exact fun _ _ _ => rfl

lemma toggles_archive
    (hplace : Client.resourceUrl creator.base ids.managementPolicy storageVersion = .ok place) :
    Toggles creator ids place [none, some 7] (some (policyOf [archiveRule, emptyRule]))
      (some (policyOf (archiveRule :: ruleFor (some 7)))) := by
  have hboth : bodyOf bothAnswer = .ok (policyOf [archiveRule, emptyRule]) :=
    bodyOf_eq_ok (by decide) (by decide +kernel)
  have harchive : bodyOf archiveAnswer = .ok (policyOf [archiveRule]) :=
    bodyOf_eq_ok (by decide) (by decide +kernel)
  exact .cons (yields_replacingRun hplace rfl hboth rfl) (along_replacingRun rfl hboth)
    (.cons (yields_replacingRun hplace rfl harchive rfl) (along_replacingRun rfl harchive) (.nil _))

/-- The operator's rule is removed and set anew, and the rule of somebody else stays. -/
theorem archiveRule_kept : ∃ ids place policy,
    Client.resourceUrl creator.base ids.managementPolicy storageVersion = .ok place ∧
    Toggles creator ids place [none, some 7] (some (policyOf [archiveRule, emptyRule])) policy ∧
    rulesOf policy = archiveRule :: ruleFor (some 7) := by
  have hisOk : (Client.resourceUrl creator.base (ResourceIds.of default "logs").managementPolicy
      storageVersion).isOk = true := by
    decide +kernel
  cases hplace : Client.resourceUrl creator.base (ResourceIds.of default "logs").managementPolicy
    storageVersion with
  | error failure =>
    rw [hplace] at hisOk
    cases hisOk
  | ok place =>
    have htoggles := toggles_archive hplace
    exact ⟨_, place, _, hplace, htoggles,
      (expiration_converges hplace).1 [none] (some 7) _ _ htoggles⟩

end Archive

end BucketOperator.Azure
