import BucketOperator.Cluster.Aws
import BucketOperator.Proofs.Cluster.Fields

/-!
# Resolving an AWS cluster

A cluster is resolved from its record and the record of the role identity it refers to. The account
is taken from the resource name of the role. A name of six parts has it in the fifth, and one that
is cut off behind the account is taken as well.
-/

namespace BucketOperator.Cluster

/-! ### Resource names -/

/-- No piece of a split has the separator. -/
lemma notMem_of_mem_splitOn {c : Char} {cs piece : List Char} (h : piece ∈ cs.splitOn c) :
    c ∉ piece := by
  induction cs generalizing piece with
  | nil =>
    rw [List.splitOn_nil, List.mem_singleton] at h
    rw [h]
    exact List.not_mem_nil
  | cons x rest ih =>
    rw [List.splitOn_cons_eq_if_modifyHead] at h
    split at h
    case isTrue =>
      rcases List.mem_cons.1 h with rfl | h
      · exact List.not_mem_nil
      · exact ih h
    case isFalse hx =>
      cases hsplit : rest.splitOn c with
      | nil => exact absurd hsplit (List.splitOn_ne_nil c rest)
      | cons first others =>
        rw [hsplit] at h ih
        rcases List.mem_cons.1 h with rfl | h
        · rw [List.mem_cons, not_or]
          exact ⟨fun heq => hx (beq_iff_eq.2 heq.symm), ih List.mem_cons_self⟩
        · exact ih (List.mem_cons_of_mem _ h)

/-- Texts that are split in the same way are the same. -/
lemma eq_of_splitOn_eq {c : Char} {s t : String} (h : s.toList.splitOn c = t.toList.splitOn c) :
    s = t := by
  have hjoin := congrArg ([c].intercalate ·) h
  simp only [List.intercalate_splitOn] at hjoin
  exact String.toList_inj.1 hjoin

namespace Aws

/-- What stands in a resource name before the resource: where the resource is, and whose. -/
structure Owner where
  partition : String
  service : String
  region : String
  account : String
  partition_plain : ':' ∉ partition.toList
  service_plain : ':' ∉ service.toList
  region_plain : ':' ∉ region.toList
  account_ne_empty : account ≠ ""
  account_digits : ∀ c ∈ account.toList, c.isDigit = true

namespace Owner

variable (owner : Owner)

def text : String :=
  s!"arn:{owner.partition}:{owner.service}:{owner.region}:{owner.account}"

def parts : List (List Char) :=
  [['a', 'r', 'n'], owner.partition.toList, owner.service.toList, owner.region.toList,
    owner.account.toList]

lemma account_plain : ':' ∉ owner.account.toList := by
  intro h
  exact absurd (owner.account_digits _ h) (by decide)

lemma splitOn_text : owner.text.toList.splitOn ':' = owner.parts := by
  have htext : owner.text.toList = ['a', 'r', 'n'] ++ ':' :: (owner.partition.toList ++
      ':' :: (owner.service.toList ++ ':' :: (owner.region.toList ++
        ':' :: owner.account.toList))) := by
    change ("arn:" ++ owner.partition ++ ":" ++ owner.service ++ ":" ++ owner.region ++ ":" ++
      owner.account).toList = _
    simp [String.toList_append]
  rw [htext, List.splitOn_append_cons_self_of_not_mem (by decide),
    List.splitOn_append_cons_self_of_not_mem owner.partition_plain,
    List.splitOn_append_cons_self_of_not_mem owner.service_plain,
    List.splitOn_append_cons_self_of_not_mem owner.region_plain,
    List.splitOn_eq_singleton owner.account_plain]
  rfl

lemma splitOn_text_append (resource : String) :
    (owner.text ++ ":" ++ resource).toList.splitOn ':' =
      owner.parts ++ resource.toList.splitOn ':' := by
  have htext : (owner.text ++ ":" ++ resource).toList =
      owner.text.toList ++ ':' :: resource.toList := by
    simp [String.toList_append]
  rw [htext, List.splitOn_append_cons_self, splitOn_text]

end Owner

/-- A resource name, `arn:partition:service:region:account:resource`. Only the resource may have
colons, and the account is made of digits. -/
def IsOwned (arn account : String) : Prop :=
  ∃ (owner : Owner) (resource : String), arn = owner.text ++ ":" ++ resource ∧
    owner.account = account

/-- A resource name that is cut off behind the account. -/
def IsCutOff (arn account : String) : Prop :=
  ∃ owner : Owner, arn = owner.text ∧ owner.account = account

section Names

variable {arn account account' : String}

lemma IsCutOff.not_isOwned (h : IsCutOff arn account) : ¬ IsOwned arn account' := by
  obtain ⟨owner, rfl, -⟩ := h
  rintro ⟨owner', resource, htext, -⟩
  have hlength := congrArg List.length owner.splitOn_text
  rw [htext, owner'.splitOn_text_append, List.length_append] at hlength
  have hpos := List.length_pos_iff.2 (List.splitOn_ne_nil ':' resource.toList)
  change 5 + _ = 5 at hlength
  omega

/-- The account is the fifth part of a name that is split, and the parts behind it do not count. -/
lemma accountOfArn?_eq_some_iff_splitOn : accountOfArn? arn = some account ↔
    ∃ (owner : Owner) (rest : List (List Char)),
      arn.toList.splitOn ':' = owner.parts ++ rest ∧ owner.account = account := by
  constructor
  · intro h
    unfold accountOfArn? at h
    split at h
    case h_1 partition service region digits rest hsplit =>
      rw [Option.ite_none_right_eq_some, Bool.and_eq_true, Bool.not_eq_true'] at h
      obtain ⟨⟨hne, hdigits⟩, heq⟩ := h
      have hplain : ∀ piece ∈ arn.toList.splitOn ':', ':' ∉ piece :=
        fun _ => notMem_of_mem_splitOn
      rw [hsplit] at hplain
      simp only [List.forall_mem_cons] at hplain
      obtain ⟨-, hpartition, hservice, hregion, -⟩ := hplain
      let owner : Owner := ⟨.ofList partition, .ofList service, .ofList region, .ofList digits,
        by simpa using hpartition, by simpa using hservice, by simpa using hregion,
        by simpa using hne, by simpa using hdigits⟩
      refine ⟨owner, rest, ?_, Option.some.inj heq⟩
      rw [hsplit]
      simp [Owner.parts, owner]
    case h_2 => cases h
  · rintro ⟨owner, rest, hsplit, rfl⟩
    have hne : owner.account.toList.isEmpty = false := by
      rw [List.isEmpty_eq_false_iff, ne_eq, String.toList_eq_nil_iff]
      exact owner.account_ne_empty
    have hdigits : owner.account.toList.all Char.isDigit = true :=
      List.all_eq_true.2 owner.account_digits
    rw [accountOfArn?, hsplit]
    simp [Owner.parts, hne, hdigits]

/-- A name has an account whether or not there is a sixth part. -/
lemma accountOfArn?_eq_some_iff :
    accountOfArn? arn = some account ↔ IsOwned arn account ∨ IsCutOff arn account := by
  rw [accountOfArn?_eq_some_iff_splitOn]
  constructor
  · rintro ⟨owner, rest, hsplit, haccount⟩
    cases rest with
    | nil =>
      refine .inr ⟨owner, eq_of_splitOn_eq (c := ':') ?_, haccount⟩
      rw [owner.splitOn_text, hsplit, List.append_nil]
    | cons piece others =>
      have hplain : ∀ part ∈ piece :: others, ':' ∉ part := by
        intro part hpart
        apply notMem_of_mem_splitOn (c := ':')
        rw [hsplit]
        exact List.mem_append_right _ hpart
      refine .inl ⟨owner, .ofList ([':'].intercalate (piece :: others)),
        eq_of_splitOn_eq (c := ':') ?_, haccount⟩
      rw [owner.splitOn_text_append, hsplit, String.toList_ofList,
        List.splitOn_intercalate ':' hplain (List.cons_ne_nil _ _)]
  · rintro (⟨owner, resource, rfl, haccount⟩ | ⟨owner, rfl, haccount⟩)
    · exact ⟨owner, _, owner.splitOn_text_append resource, haccount⟩
    · exact ⟨owner, [], owner.splitOn_text.trans (List.append_nil _).symm, haccount⟩

end Names

/-! ### Contexts -/

/-- The context that the records of a cluster and of its role identity give. -/
def ofRecords (cluster : ManagementCluster) (record identity : Json) :
    Except Failure AwsContext := do
  contextOf cluster record (← identityName cluster record) identity

/-- The records of a cluster and of its role identity describe a context: the identity is referred
to, the role has a name with an account in it, and the tags, if there are any, are texts. All of
them are taken over as they are. -/
structure Describes (cluster : ManagementCluster) (record identity : Json)
    (HasAccount : String → String → Prop) (context : AwsContext) : Prop where
  reference : ∃ name, HasText record ["spec", "identityRef", "name"] name
  role : nestedString? identity ["spec", "roleARN"] = some context.roleArn
  account : HasAccount context.roleArn context.accountId
  tags : HasTags record ["spec", "additionalTags"] context.tags
  name : context.name = cluster.name
  namespaceName : context.namespaceName = cluster.namespaceName
  baseDomain : context.baseDomain = cluster.baseDomain
  region : context.region = cluster.region

section Contexts

variable {cluster : ManagementCluster} {record identity : Json} {arn reason : String}
  {context : AwsContext}

lemma gives_identityName : Gives cluster.name
    (HasText record ["spec", "identityRef", "name"]) (identityName cluster record) :=
  gives_text

/-- The rest is done for the account in the name of the role, if there is one. -/
lemma gives_account {α : Type} {R : String → α → Prop} {rest : String → Except Failure α}
    (hrest : ∀ account, IsOwned arn account ∨ IsCutOff arn account →
      Gives cluster.name (R account) (rest account)) :
    Gives cluster.name
      (fun a => ∃ account, (IsOwned arn account ∨ IsCutOff arn account) ∧ R account a)
      (match accountOfArn? arn with
        | some account => rest account
        | none => .error (.resolution cluster.name reason)) := by
  simp only [← accountOfArn?_eq_some_iff] at hrest ⊢
  split
  case h_1 account haccount =>
    refine (hrest account haccount).congr ?_
    intro a
    simp only [haccount, Option.some.injEq, exists_eq_left']
  case h_2 hnone =>
    apply gives_error
    rintro a ⟨account, haccount, -⟩
    cases haccount.symm.trans hnone

lemma gives_ofRecords : Gives cluster.name
    (Describes cluster record identity fun arn account => IsOwned arn account ∨ IsCutOff arn account)
    (ofRecords cluster record identity) := by
  have h : Gives cluster.name
      (fun context => ∃ name, HasText record ["spec", "identityRef", "name"] name ∧
        ∃ roleArn, HasText identity ["spec", "roleARN"] roleArn ∧
          ∃ account, (IsOwned roleArn account ∨ IsCutOff roleArn account) ∧
            ∃ tags, HasTags record ["spec", "additionalTags"] tags ∧
              context = ⟨cluster.name, cluster.namespaceName, cluster.baseDomain, cluster.region,
                roleArn, account, tags⟩)
      (ofRecords cluster record identity) := by
    unfold ofRecords contextOf
    refine gives_identityName.bind fun name _ => ?_
    refine gives_requiredString.bind fun roleArn _ => ?_
    refine gives_account fun account _ => ?_
    refine gives_nestedStringMap.bind fun tags _ => ?_
    exact gives_ok fun context => Iff.rfl
  refine h.congr ?_
  intro context
  constructor
  · rintro ⟨name, hname, roleArn, hrole, account, haccount, tags, htags, rfl⟩
    exact ⟨⟨name, hname⟩, hrole.1, haccount, htags, rfl, rfl, rfl, rfl⟩
  · intro h
    obtain ⟨name, hname⟩ := h.reference
    have hne : context.roleArn ≠ "" := by
      intro hempty
      have haccount := accountOfArn?_eq_some_iff.2 h.account
      rw [hempty] at haccount
      cases haccount
    refine ⟨name, hname, _, ⟨h.role, hne⟩, _, h.account, _, h.tags, ?_⟩
    rw [← h.name, ← h.namespaceName, ← h.baseDomain, ← h.region]

lemma describes_or_iff {P Q : String → String → Prop} :
    Describes cluster record identity (fun arn account => P arn account ∨ Q arn account) context ↔
      Describes cluster record identity P context ∨ Describes cluster record identity Q context := by
  constructor
  · intro h
    rcases h.account with haccount | haccount
    · exact .inl { h with account := haccount }
    · exact .inr { h with account := haccount }
  · rintro (h | h)
    · exact { h with account := .inl h.account }
    · exact { h with account := .inr h.account }

lemma Describes.not_isOwned (h : Describes cluster record identity IsCutOff context) :
    ¬ Describes cluster record identity IsOwned context :=
  fun howned => h.account.not_isOwned howned.account

end Contexts

/-- An AWS cluster is resolved exactly if its records describe a context, where a role may also have
a name that is cut off behind the account. Otherwise it is said that the cluster cannot be
resolved. Whole names are the only ones that are accepted just where the records do not describe a
context by a name that is cut off. -/
theorem resolved_iff_described (cluster : ManagementCluster) (record identity : Json) :
    (∀ context, ofRecords cluster record identity = .ok context ↔
      Describes cluster record identity IsOwned context ∨
        Describes cluster record identity IsCutOff context) ∧
    (∀ failure, ofRecords cluster record identity = .error failure →
      ∃ reason, failure = .resolution cluster.name reason) ∧
    ((∀ context, ofRecords cluster record identity = .ok context ↔
        Describes cluster record identity IsOwned context) ↔
      ∀ context, ¬ Describes cluster record identity IsCutOff context) := by
  have hgives : Gives cluster.name _ (ofRecords cluster record identity) := gives_ofRecords
  have hok : ∀ context, ofRecords cluster record identity = .ok context ↔
      Describes cluster record identity IsOwned context ∨
        Describes cluster record identity IsCutOff context :=
    fun context => (hgives.ok_iff context).trans describes_or_iff
  refine ⟨hok, hgives.of_error, ?_⟩
  constructor
  · intro howned context hcut
    exact hcut.not_isOwned ((howned context).1 ((hok context).2 (.inr hcut)))
  · intro hwhole context
    rw [hok, or_iff_left (hwhole context)]

/-- A name that is cut off behind the account is accepted. -/
theorem cut_off_name_accepted : ¬ ∀ cluster record identity context,
    ofRecords cluster record identity = .ok context ↔
      Describes cluster record identity IsOwned context := by
  intro h
  let cluster : ManagementCluster :=
    ⟨"glippy", "org-giantswarm", "gaws.gigantic.io", .aws, "eu-west-1"⟩
  let record : Json :=
    .object [("spec", .object [("identityRef", .object [("name", .string "default")])])]
  let identity : Json :=
    .object [("spec", .object [("roleARN", .string "arn:aws:iam::123456789012")])]
  let context : AwsContext := ⟨"glippy", "org-giantswarm", "gaws.gigantic.io", "eu-west-1",
    "arn:aws:iam::123456789012", "123456789012", .empty⟩
  have hok : ofRecords cluster record identity = .ok context := by decide +kernel
  have hcut : IsCutOff context.roleArn context.accountId :=
    ⟨⟨"aws", "iam", "", "123456789012", by decide, by decide, by decide, by decide,
      List.all_eq_true.1 rfl⟩, rfl, rfl⟩
  exact hcut.not_isOwned ((h cluster record identity context).1 hok).account

end Aws

end BucketOperator.Cluster
