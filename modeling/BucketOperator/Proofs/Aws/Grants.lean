import BucketOperator.Proofs.Aws.Statements
import Mathlib.Data.List.Basic
import Mathlib.Data.Option.Basic

/-!
# What policies grant

A role may use the buckets that are named for it, each with everything in it, and no others. A
bucket refuses what does not come over TLS. Names are taken as they are: whatever text stands for
one, the documents have the same statements, and these tell which names they were made from.
-/

namespace BucketOperator.Aws.Policy

/-! ### Resource names -/

/-- The resource name of a bucket. -/
def arn (partition bucket : String) : String := s!"arn:{partition}:s3:::{bucket}"

/-- The resource names of a bucket and of everything in it. -/
def within (partition bucket : String) : List String :=
  [arn partition bucket, arn partition bucket ++ "/*"]

/-- The buckets a role is for, its own and the others, as far as they have a name. -/
def namedBuckets (bucket : String) (extraBuckets : List String) : List String :=
  (bucket :: extraBuckets).filter (· ≠ "")

variable {partition bucket : String} {extraBuckets : List String}

lemma arn_injective (partition : String) : Function.Injective (arn partition) := by
  intro name name' h
  exact (String.append_right_inj _).1 h

/-- Resource names tell the buckets they belong to, and in which order these were named. -/
lemma flatMap_within_injective (partition : String) :
    Function.Injective fun names : List String => names.flatMap (within partition) := by
  intro names names' h
  induction names generalizing names' with
  | nil =>
    cases names' with
    | nil => rfl
    | cons name' rest' => cases h
  | cons name rest ih =>
    cases names' with
    | nil => cases h
    | cons name' rest' =>
      obtain ⟨hname, hrest⟩ := List.cons.inj h
      rw [arn_injective partition hname, ih (List.cons.inj hrest).2]

/-! ### Statements -/

/-- Some actions are allowed on some resources, without conditions. -/
def allowing (actions resources : List String) : Statement where
  sid := none
  effect := .allow
  principals := none
  actions := actions
  resources := some resources
  conditions := []

/-- The statements of a role: it may use the objects of some buckets and look at the account. -/
def roleStatements (partition : String) (buckets : List String) : List Statement :=
  [allowing ["s3:ListBucket", "s3:PutObject", "s3:GetObject", "s3:DeleteObject"]
      (buckets.flatMap (within partition)),
    allowing ["s3:GetAccessPoint", "s3:GetAccountPublicAccessBlock", "s3:ListAccessPoints"] ["*"]]

/-- Nobody may do anything to a bucket without TLS. -/
def requiringTls (partition bucket : String) : Statement where
  sid := some "EnforceSSLOnly"
  effect := .deny
  principals := some .everyone
  actions := ["s3:*"]
  resources := some (within partition bucket)
  conditions := [⟨"Bool", "aws:SecureTransport", ["false"]⟩]

lemma read?_allowing {actions names : List String} {resources : Json}
    (h : texts? resources = some names) :
    Statement.read? (.object [("Action", .strings actions), ("Effect", .string "Allow"),
      ("Resource", resources)]) = some (allowing actions names) := by
  unfold Statement.read?
  simp only [Json.get?, List.lookup_cons, List.lookup_nil, optional?]
  simp [allowing, texts?_strings, h, members?, statementMembers, Effect.read?]

/-- The text of a role policy is read as the statements of the role. -/
lemma read?_forRole : read? (forRole partition bucket extraBuckets) =
    some (roleStatements partition (namedBuckets bucket extraBuckets)) := by
  rw [forRole, read?_document]
  · rw [List.mapM_cons, read?_allowing (texts?_strings _), List.mapM_cons, read?_allowing rfl]
    rfl
  · have hplain : ∀ (actions : List String) {resources : Json},
        resources.IsPlain (statementDepth - 1) → (Json.object [("Action", .strings actions),
          ("Effect", .string "Allow"), ("Resource", resources)]).IsPlain statementDepth := by
      intro actions resources hresources
      refine Json.isPlain_object ["Action", "Effect", "Resource"] rfl (by decide) ?_
      simp only [List.forall_mem_cons]
      exact ⟨Json.isPlain_strings _, Json.isPlain_string _, hresources, fun _ h => nomatch h⟩
    exact List.forall_mem_cons.2 ⟨hplain _ (Json.isPlain_strings _),
      List.forall_mem_singleton.2 (hplain _ (Json.isPlain_string _))⟩

/-- The text of a bucket policy is read as one statement. -/
lemma read?_forBucket :
    read? (forBucket partition bucket) = some [requiringTls partition bucket] := by
  rw [forBucket, read?_document]
  · rfl
  · refine List.forall_mem_singleton.2 ?_
    refine Json.isPlain_object
      ["Action", "Condition", "Effect", "Principal", "Resource", "Sid"] rfl (by decide) ?_
    simp only [List.forall_mem_cons]
    exact ⟨Json.isPlain_string _,
      Json.isPlain_member _ (Json.isPlain_member _ (Json.isPlain_string _)),
      Json.isPlain_string _, Json.isPlain_string _, Json.isPlain_strings _,
      Json.isPlain_string _, fun _ h => nomatch h⟩

/-- Policies are about exactly the named buckets, whatever the texts are. The policy of a role is
read as two statements: one allows the use of objects, on each named bucket and everything in it in
the order of the names, the other allows to look at the account. The policy of a bucket is read as
one statement that denies everybody everything on this bucket without TLS. The policies of two
roles are the same only if they name the same buckets. -/
theorem named_buckets_granted (partition : String) :
    (∀ bucket extraBuckets, read? (forRole partition bucket extraBuckets) =
      some (roleStatements partition (namedBuckets bucket extraBuckets))) ∧
    (∀ bucket, read? (forBucket partition bucket) = some [requiringTls partition bucket]) ∧
    ∀ bucket extraBuckets bucket' extraBuckets',
      forRole partition bucket extraBuckets = forRole partition bucket' extraBuckets' ↔
        namedBuckets bucket extraBuckets = namedBuckets bucket' extraBuckets' := by
  refine ⟨fun _ _ => read?_forRole, fun _ => read?_forBucket, ?_⟩
  intro bucket extraBuckets bucket' extraBuckets'
  constructor
  · intro h
    have hread := congrArg read? h
    rw [read?_forRole, read?_forRole, Option.some.injEq] at hread
    have hresources := congrArg Statement.resources (List.cons.inj hread).1
    exact flatMap_within_injective partition (Option.some.inj hresources)
  · intro h
    have hnames : (bucket :: extraBuckets).filter (· ≠ "") =
        (bucket' :: extraBuckets').filter (· ≠ "") := h
    rw [forRole, forRole, hnames]

end BucketOperator.Aws.Policy
