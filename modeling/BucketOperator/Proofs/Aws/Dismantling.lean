import BucketOperator.Proofs.Aws.Listing
import Mathlib.Data.List.Count
import Mathlib.Data.List.Nodup

/-!
# Taking a role apart

IAM deletes a role only when nothing is attached to it. So a role is taken apart first: its attached
policies are listed and detached, its inline policies are listed and deleted, and the instance
profile of its name is emptied and deleted. A run goes through all of this in order, or it ends at
the first call that fails; that a role or a profile is absent is no failure.
-/

namespace BucketOperator.Aws

open Program (IsScripted Follows)

/-- What the operator calls a call in its failures. -/
def IamCall.part : IamCall → String
  | .getRole _ => "get role"
  | .createRole .. => "create role"
  | .updateTrustPolicy .. => "update assume role policy"
  | .tagRole .. => "tag role"
  | .untagRole .. => "untag role"
  | .putRolePolicy .. => "put role policy"
  | .listAttachedPolicies .. => "list attached role policies"
  | .detachPolicy .. => "detach role policy"
  | .listInlinePolicies .. => "list role policies"
  | .deleteInlinePolicy .. => "delete role policy"
  | .removeFromProfile .. => "remove role from instance profile"
  | .deleteProfile _ => "delete instance profile"
  | .deleteRole _ => "delete role"

/-- Whether it is no failure if what a call is about does not exist. -/
def IamCall.forgivesAbsence : IamCall → Bool
  | .getRole _ => true
  | .removeFromProfile .. => true
  | .deleteProfile _ => true
  | _ => false

/-- The failure of a run in which an IAM call fails. -/
def iamFailure? (bucket : String) : Exchange World → Option BucketOperator.Failure
  | ⟨.iam _ call, .error failure⟩ =>
    if call.forgivesAbsence && failure.isNoSuchEntity then none
    else some (.provider bucket call.part (.aws failure))
  | _ => none

/-- A call is granted, or what it is about does not exist. -/
def IsSettled {α : Type} (r : Except Failure α) : Prop :=
  ∀ failure, r = .error failure → failure.isNoSuchEntity = true

lemma isSettled_ok {α : Type} {a : α} : IsSettled (.ok a : Except Failure α) := by
  rintro _ ⟨⟩

/-- An answer says that there is no role. -/
def IsRoleless (r : Except Failure (Option Role)) : Prop :=
  (∀ role, r ≠ .ok (some role)) ∧ IsSettled r

namespace AccessRole

/-- An IAM call is granted. -/
def granted (session : Session) (call : IamCall) (a : call.Output) : Exchange World :=
  ⟨.iam session call, .ok a⟩

/-- What is met when a role is taken apart: the role, its attached and its inline policies, and the
answers about the instance profile of its name. -/
structure Dismantling where
  found : Role
  attached : List (Option String × Page (Option String))
  inline : List (Option String × Page String)
  removed : Except Failure Unit
  deleted : Except Failure Unit

/-- The policies are those of whole listings, and nothing failed but that there was no profile. -/
structure Dismantling.IsSound (d : Dismantling) : Prop where
  attached : IsListing none d.attached
  inline : IsListing none d.inline
  removed : IsSettled d.removed
  deleted : IsSettled d.deleted

/-- The resource names of the attached policies, in the order in which they are listed. -/
def Dismantling.arns (d : Dismantling) : List String := (listed d.attached).filterMap id

/-- The names of the inline policies, in the order in which they are listed. -/
def Dismantling.names (d : Dismantling) : List String := listed d.inline

/-- What is done with a role that was found: its attached policies are listed and detached, its
inline policies are listed and deleted, its instance profile is emptied and deleted, and then the
role itself is deleted. -/
def Dismantling.rest (session : Session) (role : String) (d : Dismantling) : Trace World :=
  d.attached.map (fun p => granted session (.listAttachedPolicies role p.1) p.2) ++
    d.arns.map (fun arn => granted session (.detachPolicy role arn) ()) ++
    (d.inline.map (fun p => granted session (.listInlinePolicies role p.1) p.2) ++
      d.names.map fun name => granted session (.deleteInlinePolicy role name) ()) ++
    [⟨.iam session (.removeFromProfile role role), d.removed⟩,
      ⟨.iam session (.deleteProfile role), d.deleted⟩, granted session (.deleteRole role) ()]

/-- A role is found, taken apart and deleted. -/
def Dismantling.script (session : Session) (role : String) (d : Dismantling) : Trace World :=
  granted session (.getRole role) (some d.found) :: d.rest session role

variable {bucket : Bucket} {session : Session} {patience : Nat} {role : String}
  {α γ : Type}

/-! ### Single calls -/

lemma step_isScripted (call : IamCall) (a₀ : call.Output) (h : call.forgivesAbsence = false) :
    ((step bucket call.part (callIam call)).run session).IsScripted (iamFailure? bucket.spec.name)
      (fun t a => t = [granted session call a]) (fun t a => t = [granted session call a])
      fun _ => False := by
  refine isScripted_named_iam call a₀ ?_
  rintro (failure | a)
  · simp [iamFailure?, h, report, Except.mapError, failure?]
  · rfl

/-- The answers to a call that may have no target decide what comes of it. -/
lemma forgiving_isScripted (call : IamCall) (absent : call.Output)
    (h : call.forgivesAbsence = true) :
    ((namedOrAbsent bucket.spec.name call.part absent (callIam call)).run session).IsScripted
      (iamFailure? bucket.spec.name)
      (fun t a => ∃ r, t = [⟨.iam session call, r⟩] ∧
        reportOr bucket.spec.name call.part absent r = .ok a)
      (fun t a => ∃ r, t = [⟨.iam session call, r⟩] ∧
        reportOr bucket.spec.name call.part absent r = .ok a) fun _ => False := by
  rw [run_namedOrAbsent_iam]
  have hok : reportOr bucket.spec.name call.part absent (.ok absent) = .ok absent := rfl
  refine IsScripted.ask ?_ hok
  rintro (failure | a)
  · by_cases hfailure : failure.isNoSuchEntity = true
    · simp [iamFailure?, h, hfailure, reportOr, failure?]
    · simp [iamFailure?, h, hfailure, reportOr, failure?]
  · rfl

lemma reportOr_eq_ok_iff {operation : String} {r : Except Failure Unit} {u : Unit} :
    reportOr bucket.spec.name operation () r = .ok u ↔ IsSettled r := by
  rcases r with failure | ⟨⟩
  · by_cases h : failure.isNoSuchEntity = true <;> simp [reportOr, IsSettled, h]
  · simp [reportOr, IsSettled]

lemma reportOr_eq_some_iff {operation : String} {r : Except Failure (Option Role)} {found : Role} :
    reportOr bucket.spec.name operation none r = .ok (some found) ↔ r = .ok (some found) := by
  rcases r with failure | a
  · by_cases h : failure.isNoSuchEntity = true <;> simp [reportOr, h]
  · simp [reportOr]

lemma reportOr_eq_none_iff {operation : String} {r : Except Failure (Option Role)} :
    reportOr bucket.spec.name operation none r = .ok none ↔ IsRoleless r := by
  rcases r with failure | _ | found
  · by_cases h : failure.isNoSuchEntity = true <;> simp [reportOr, IsRoleless, IsSettled, h]
  · simp [reportOr, IsRoleless, IsSettled]
  · simp [reportOr, IsRoleless]

/-! ### Policies -/

/-- The attached policies of a role are listed and detached, those that have a resource name. -/
def detaching (session : Session) (role : String)
    (pages : List (Option String × Page (Option String))) : Trace World :=
  pages.map (fun p => granted session (.listAttachedPolicies role p.1) p.2) ++
    ((listed pages).filterMap id).map fun arn => granted session (.detachPolicy role arn) ()

/-- The inline policies of a role are listed and deleted. -/
def unwriting (session : Session) (role : String)
    (pages : List (Option String × Page String)) : Trace World :=
  pages.map (fun p => granted session (.listInlinePolicies role p.1) p.2) ++
    (listed pages).map fun name => granted session (.deleteInlinePolicy role name) ()

/-- List everything and make a call for each entry that is selected. -/
def clearOut (list : Option String → Operation (Page α)) (select : List α → List γ)
    (remove : γ → Operation Unit) (patience : Nat) : Operation Unit := do
  let entries ← collectPages list patience none
  for x in select entries do
    remove x

lemma stripPolicies_eq : stripPolicies bucket patience role =
    clearOut (fun token => step bucket "list attached role policies"
        (callIam (.listAttachedPolicies role token))) (List.filterMap id)
      (fun arn => step bucket "detach role policy" (callIam (.detachPolicy role arn))) patience >>=
    fun _ => clearOut (fun token => step bucket "list role policies"
        (callIam (.listInlinePolicies role token))) id
      (fun name => step bucket "delete role policy" (callIam (.deleteInlinePolicy role name)))
      patience := by
  simp only [stripPolicies, clearOut, bind_assoc, id_eq, pure_bind]

lemma clearOut_isScripted {list : Option String → Operation (Page α)} {select : List α → List γ}
    {remove : γ → Operation Unit} {exchange : Option String → Page α → Exchange World}
    {removed : γ → Exchange World}
    (hlist : AsksPages session (iamFailure? bucket.spec.name) list exchange)
    (hremove : ∀ x, ((remove x).run session).Follows (iamFailure? bucket.spec.name) [removed x] ())
    (isPage : Exchange World → Bool) (hpage : ∀ token page, isPage (exchange token page) = true) :
    ((clearOut list select remove patience).run session).IsScripted (iamFailure? bucket.spec.name)
      (fun t _ => ∃ pages, IsListing none pages ∧
        t = pages.map (fun p => exchange p.1 p.2) ++ (select (listed pages)).map removed)
      (fun t _ => ∃ pages, IsListing none pages ∧ pages.length ≤ patience ∧
        t = pages.map (fun p => exchange p.1 p.2) ++ (select (listed pages)).map removed)
      fun t => patience ≤ t.countP isPage := by
  simp only [clearOut, bind_pure_unit]
  refine (isScripted_bind (collectPages_isScripted hlist isPage hpage)
    (fun _ _ _ => follows_for hremove _) fun _ _ _ => ⟨_, _, rfl, rfl⟩).mono ?_ ?_ ?_
  · rintro _ _ ⟨_, _, _, rfl, ⟨pages, hpages, rfl, rfl⟩, rfl, -⟩
    exact ⟨pages, hpages, by rw [List.map_eq_flatMap (f := removed)]⟩
  · rintro _ _ ⟨pages, hpages, hlength, rfl⟩
    exact ⟨_, _, _, rfl, ⟨pages, hpages, hlength, rfl, rfl⟩, List.map_eq_flatMap, rfl⟩
  · rintro _ (h | ⟨_, _, _, _, _, ⟨⟩⟩)
    exact h

/-- Whether a call lists attached policies. -/
def isListingAttached : Exchange World → Bool
  | ⟨.iam _ (.listAttachedPolicies ..), _⟩ => true
  | _ => false

/-- Whether a call lists inline policies. -/
def isListingInline : Exchange World → Bool
  | ⟨.iam _ (.listInlinePolicies ..), _⟩ => true
  | _ => false

/-- As many pages of a listing were asked for as may be. -/
def IsExhausted (patience : Nat) (t : Trace World) : Prop :=
  patience ≤ t.countP isListingAttached ∨ patience ≤ t.countP isListingInline

lemma IsExhausted.append_left {t : Trace World} (h : IsExhausted patience t) (s : Trace World) :
    IsExhausted patience (s ++ t) := by
  unfold IsExhausted
  rw [List.countP_append, List.countP_append]
  exact h.imp Nat.le_add_left_of_le Nat.le_add_left_of_le

lemma exists_listing (α : Type) : ∃ pages : List (Option String × Page α), IsListing none pages :=
  ⟨[(none, ⟨[], none⟩)], .last (.inl rfl)⟩

lemma attached_asks : AsksPages session (iamFailure? bucket.spec.name)
    (fun token => step bucket "list attached role policies"
      (callIam (.listAttachedPolicies role token)))
    fun token => granted session (.listAttachedPolicies role token) :=
  fun token => step_isScripted (.listAttachedPolicies role token) ⟨[], none⟩ rfl

lemma inline_asks : AsksPages session (iamFailure? bucket.spec.name)
    (fun token => step bucket "list role policies" (callIam (.listInlinePolicies role token)))
    fun token => granted session (.listInlinePolicies role token) :=
  fun token => step_isScripted (.listInlinePolicies role token) ⟨[], none⟩ rfl

lemma detach_follows (arn : String) :
    ((step bucket "detach role policy" (callIam (.detachPolicy role arn))).run session).Follows
      (iamFailure? bucket.spec.name) [granted session (.detachPolicy role arn) ()] () :=
  IsScripted.follows (step_isScripted (.detachPolicy role arn) () rfl)

lemma deleteInline_follows (name : String) :
    ((step bucket "delete role policy" (callIam (.deleteInlinePolicy role name))).run
      session).Follows (iamFailure? bucket.spec.name)
      [granted session (.deleteInlinePolicy role name) ()] () :=
  IsScripted.follows (step_isScripted (.deleteInlinePolicy role name) () rfl)

lemma stripPolicies_isScripted : ((stripPolicies bucket patience role).run session).IsScripted
    (iamFailure? bucket.spec.name)
    (fun t _ => ∃ attached inline, IsListing none attached ∧ IsListing none inline ∧
      t = detaching session role attached ++ unwriting session role inline)
    (fun t _ => ∃ attached inline, IsListing none attached ∧ IsListing none inline ∧
      attached.length ≤ patience ∧ inline.length ≤ patience ∧
      t = detaching session role attached ++ unwriting session role inline)
    (IsExhausted patience) := by
  rw [stripPolicies_eq]
  refine (isScripted_bind
    (clearOut_isScripted attached_asks detach_follows isListingAttached fun _ _ => rfl)
    (fun _ _ _ => clearOut_isScripted inline_asks deleteInline_follows isListingInline
      fun _ _ => rfl) fun _ _ _ => ?_).mono ?_ ?_ ?_
  · obtain ⟨pages, hpages⟩ := exists_listing String
    exact ⟨_, (), pages, hpages, rfl⟩
  · rintro _ _ ⟨_, _, _, rfl, ⟨attached, hattached, rfl⟩, inline, hinline, rfl⟩
    exact ⟨attached, inline, hattached, hinline, rfl⟩
  · rintro _ _ ⟨attached, inline, hattached, hinline, hlength, hlength', rfl⟩
    exact ⟨_, _, (), rfl, ⟨attached, hattached, hlength, rfl⟩, inline, hinline, hlength', rfl⟩
  · rintro _ (h | ⟨t, t', _, rfl, -, h⟩)
    · exact .inl h
    · exact IsExhausted.append_left (.inr h) t

/-! ### Roles -/

/-- What follows when it is known whether there is a role. -/
def takeApart (bucket : Bucket) (patience : Nat) (role : String) : Option Role → Operation Unit
  | none => return ()
  | some _ => do
    stripPolicies bucket patience role
    removeProfile bucket role
    step bucket "delete role" (callIam (.deleteRole role))

lemma remove_eq {wanted : BucketOperator.AccessRole} (h : bucket.spec.requestedRole = some wanted) :
    remove bucket patience =
      find? bucket wanted.roleName >>= takeApart bucket patience wanted.roleName := by
  unfold remove requested
  rw [h]
  rfl

lemma removeProfile_isScripted : ((removeProfile bucket role).run session).IsScripted
    (iamFailure? bucket.spec.name)
    (fun t _ => ∃ r r', IsSettled r ∧ IsSettled r' ∧
      t = [⟨.iam session (.removeFromProfile role role), r⟩,
        ⟨.iam session (.deleteProfile role), r'⟩])
    (fun t _ => ∃ r r', IsSettled r ∧ IsSettled r' ∧
      t = [⟨.iam session (.removeFromProfile role role), r⟩,
        ⟨.iam session (.deleteProfile role), r'⟩]) fun _ => False := by
  refine (isScripted_bind
    (forgiving_isScripted (.removeFromProfile role role) () rfl)
    (fun _ _ _ => forgiving_isScripted (.deleteProfile role) () rfl)
    fun _ _ _ => ⟨_, (), .ok (), rfl, rfl⟩).mono ?_ ?_ ?_
  · rintro _ _ ⟨_, _, _, rfl, ⟨r, rfl, hr⟩, r', rfl, hr'⟩
    exact ⟨r, r', reportOr_eq_ok_iff.1 hr, reportOr_eq_ok_iff.1 hr', rfl⟩
  · rintro _ _ ⟨r, r', hr, hr', rfl⟩
    exact ⟨_, _, (), rfl, ⟨r, rfl, reportOr_eq_ok_iff.2 hr⟩, r', rfl, reportOr_eq_ok_iff.2 hr'⟩
  · rintro _ (⟨⟨⟩⟩ | ⟨_, _, _, _, _, ⟨⟩⟩)

lemma deleteRole_follows :
    ((step bucket "delete role" (callIam (.deleteRole role))).run session).Follows
      (iamFailure? bucket.spec.name) [granted session (.deleteRole role) ()] () :=
  IsScripted.follows (step_isScripted (.deleteRole role) () rfl)

/-- The scripts of going on with a role that was found or not. -/
def restScripts (session : Session) (role : String) (allowed : Dismantling → Prop) :
    Option Role → Scripts World Unit
  | none => .only [] ()
  | some found => fun t _ => ∃ d : Dismantling, d.found = found ∧ d.IsSound ∧ allowed d ∧
      t = d.rest session role

/-- The scripts of deleting a role. -/
def deletions (session : Session) (role : String) (allowed : Dismantling → Prop) :
    Scripts World Unit :=
  fun t _ => (∃ r, IsRoleless r ∧ t = [⟨.iam session (.getRole role), r⟩]) ∨
    ∃ d : Dismantling, d.IsSound ∧ allowed d ∧ t = d.script session role

/-- The listings have no more pages than may be asked for. -/
def Dismantling.IsShort (patience : Nat) (d : Dismantling) : Prop :=
  d.attached.length ≤ patience ∧ d.inline.length ≤ patience

lemma Dismantling.exists_isSound (found : Role) :
    ∃ d : Dismantling, d.found = found ∧ d.IsSound := by
  obtain ⟨attached, hattached⟩ := exists_listing (Option String)
  obtain ⟨inline, hinline⟩ := exists_listing String
  exact ⟨⟨found, attached, inline, .ok (), .ok ()⟩, rfl,
    ⟨hattached, hinline, isSettled_ok, isSettled_ok⟩⟩

lemma exists_restScripts (found : Option Role) :
    ∃ t u, restScripts session role (fun _ => True) found t u := by
  cases found with
  | none => exact ⟨[], (), rfl, rfl⟩
  | some found =>
    obtain ⟨d, hfound, hd⟩ := Dismantling.exists_isSound found
    exact ⟨_, (), d, hfound, hd, trivial, rfl⟩

lemma takeApart_isScripted (found : Option Role) :
    ((takeApart bucket patience role found).run session).IsScripted (iamFailure? bucket.spec.name)
      (restScripts session role (fun _ => True) found)
      (restScripts session role (·.IsShort patience) found) (IsExhausted patience) := by
  cases found with
  | none => exact (follows_return ()).mono (fun _ _ h => h) (fun _ _ h => h) (by rintro _ ⟨⟩)
  | some found =>
    refine (isScripted_bind stripPolicies_isScripted (fun _ _ _ => isScripted_bind
      removeProfile_isScripted (fun _ _ _ => deleteRole_follows) ?_) ?_).mono ?_ ?_ ?_
    · exact fun _ _ _ => ⟨_, (), rfl, rfl⟩
    · exact fun _ _ _ => ⟨_, (), _, _, (), rfl, ⟨.ok (), .ok (), isSettled_ok, isSettled_ok, rfl⟩,
        rfl, rfl⟩
    · rintro _ _ ⟨_, _, _, rfl, ⟨attached, inline, hattached, hinline, rfl⟩, _, _, _, rfl,
        ⟨removed, deleted, hremoved, hdeleted, rfl⟩, rfl, -⟩
      exact ⟨⟨found, attached, inline, removed, deleted⟩, rfl,
        ⟨hattached, hinline, hremoved, hdeleted⟩, trivial, rfl⟩
    · rintro _ _ ⟨⟨_, attached, inline, removed, deleted⟩, rfl,
        ⟨hattached, hinline, hremoved, hdeleted⟩, ⟨hlength, hlength'⟩, rfl⟩
      exact ⟨_, _, (), rfl, ⟨attached, inline, hattached, hinline, hlength, hlength', rfl⟩,
        _, _, (), rfl, ⟨removed, deleted, hremoved, hdeleted, rfl⟩, rfl, rfl⟩
    · rintro _ (h | ⟨_, _, _, _, _, ⟨⟨⟩⟩ | ⟨_, _, _, _, _, ⟨⟩⟩⟩)
      exact h

lemma deletions_iff {allowed : Dismantling → Prop} {t : Trace World} {u : Unit} :
    deletions session role allowed t u ↔ ∃ t₁ t₂ found, t = t₁ ++ t₂ ∧
      (∃ r, t₁ = [⟨.iam session (.getRole role), r⟩] ∧
        reportOr bucket.spec.name "get role" none r = .ok found) ∧
      restScripts session role allowed found t₂ u := by
  constructor
  · rintro (⟨r, hr, rfl⟩ | ⟨d, hd, hallowed, rfl⟩)
    · exact ⟨_, [], none, rfl, ⟨r, rfl, reportOr_eq_none_iff.2 hr⟩, rfl, rfl⟩
    · exact ⟨_, _, some d.found, rfl, ⟨_, rfl, reportOr_eq_some_iff.2 rfl⟩,
        d, rfl, hd, hallowed, rfl⟩
  · rintro ⟨_, _, _ | found, rfl, ⟨r, rfl, hr⟩, h⟩
    · obtain ⟨rfl, -⟩ := h
      exact .inl ⟨r, reportOr_eq_none_iff.1 hr, rfl⟩
    · obtain ⟨d, rfl, hd, hallowed, rfl⟩ := h
      obtain rfl := reportOr_eq_some_iff.1 hr
      exact .inr ⟨d, hd, hallowed, rfl⟩

lemma remove_isScripted {wanted : BucketOperator.AccessRole}
    (h : bucket.spec.requestedRole = some wanted) :
    ((remove bucket patience).run session).IsScripted (iamFailure? bucket.spec.name)
      (deletions session wanted.roleName fun _ => True)
      (deletions session wanted.roleName (·.IsShort patience)) (IsExhausted patience) := by
  rw [remove_eq h]
  refine (isScripted_bind (forgiving_isScripted (.getRole wanted.roleName) none rfl)
    (fun _ found _ => takeApart_isScripted found) fun _ found _ => exists_restScripts found).mono
    ?_ ?_ ?_
  · exact fun t u => deletions_iff.2
  · exact fun t u => deletions_iff.1
  · rintro _ (⟨⟨⟩⟩ | ⟨t, t', _, rfl, -, ht⟩)
    exact ht.append_left t

/-! ### What a run asks for -/

/-- The IAM calls of a trace. -/
def iamCalls (t : Trace World) : List IamCall :=
  t.filterMap fun e => match e.call with
    | .iam _ call => some call
    | _ => none

lemma iamCalls_script (d : Dismantling) : iamCalls (d.script session role) =
    .getRole role :: (d.attached.map (fun p => .listAttachedPolicies role p.1) ++
      d.arns.map (.detachPolicy role) ++
      (d.inline.map (fun p => .listInlinePolicies role p.1) ++
        d.names.map (.deleteInlinePolicy role)) ++
      [.removeFromProfile role role, .deleteProfile role, .deleteRole role]) := by
  simp [iamCalls, Dismantling.script, Dismantling.rest, granted, List.filterMap_map,
    List.filterMap_eq_map']

lemma count_map_eq_zero {f : γ → IamCall} {call : IamCall} (h : ∀ x, f x ≠ call) (xs : List γ) :
    (xs.map f).count call = 0 := by
  rw [List.count_eq_zero, List.mem_map]
  rintro ⟨x, -, hx⟩
  exact h x hx

lemma count_map_eq_one {f : String → IamCall} (hf : Function.Injective f) {xs : List String}
    (hxs : xs.Nodup) {x : String} (hx : x ∈ xs) : (xs.map f).count (f x) = 1 := by
  rw [List.count_map_of_injective xs f hf, List.count_eq_one_of_mem hxs hx]

/-- Each attached policy is detached once. -/
lemma count_detachPolicy {d : Dismantling} (hd : d.arns.Nodup) {arn : String}
    (harn : arn ∈ d.arns) :
    (iamCalls (d.script session role)).count (.detachPolicy role arn) = 1 := by
  have hinjective : Function.Injective (IamCall.detachPolicy role) :=
    fun _ _ h => (IamCall.detachPolicy.inj h).2
  simp [iamCalls_script, count_map_eq_zero, count_map_eq_one hinjective hd harn]

/-- Each inline policy is deleted once. -/
lemma count_deleteInlinePolicy {d : Dismantling} (hd : d.names.Nodup) {name : String}
    (hname : name ∈ d.names) :
    (iamCalls (d.script session role)).count (.deleteInlinePolicy role name) = 1 := by
  have hinjective : Function.Injective (IamCall.deleteInlinePolicy role) :=
    fun _ _ h => (IamCall.deleteInlinePolicy.inj h).2
  simp [iamCalls_script, count_map_eq_zero, count_map_eq_one hinjective hd hname]

lemma count_deleteRole (d : Dismantling) :
    (iamCalls (d.script session role)).count (.deleteRole role) = 1 := by
  simp [iamCalls_script, count_map_eq_zero]

/-- Without a role nothing else is asked for. -/
lemma remove_of_roleless {wanted : BucketOperator.AccessRole} {t : Trace World}
    {r : Except Failure (Option Role)} {o : Except BucketOperator.Failure Unit}
    (h : bucket.spec.requestedRole = some wanted) (hr : IsRoleless r) :
    ((remove bucket patience).run session).Yields
      (⟨.iam session (.getRole wanted.roleName), r⟩ :: t) o ↔ t = [] ∧ o = .ok () := by
  rw [remove_eq h, run_bind, run_find?, Program.ask_bind, Program.yields_ask_iff]
  constructor
  · rintro ⟨r', t', ht, hrest⟩
    obtain ⟨he, rfl⟩ := List.cons.inj ht
    cases he
    rw [Program.done_bind, reportOr_eq_none_iff.2 hr] at hrest
    exact Program.yields_done_iff.1 hrest
  · rintro ⟨rfl, rfl⟩
    refine ⟨r, [], rfl, ?_⟩
    rw [Program.done_bind, reportOr_eq_none_iff.2 hr]
    exact .here _

/-- A role is taken apart before it is deleted. A run that finds the role goes through its attached
policies, its inline policies and its instance profile in order and deletes the role at last, or it
ends at the first call that fails, with the failure of that call; an absent profile is no failure.
All of this is what a run may do, whatever is listed and answered, unless a listing has more pages
than may be asked for. A run that finds no role ends at once. Each listed policy is dealt with once
if all are distinct, and so is the role. -/
theorem role_taken_apart {bucket : Bucket} {wanted : BucketOperator.AccessRole}
    (h : bucket.spec.requestedRole = some wanted) (session : Session) (patience : Nat) :
    (∀ t o, ((remove bucket patience).run session).Yields t o →
      (∃ r, IsRoleless r ∧ t = [⟨.iam session (.getRole wanted.roleName), r⟩] ∧ o = .ok ()) ∨
      ∃ d : Dismantling, d.IsSound ∧ Performance (iamFailure? bucket.spec.name)
        (d.script session wanted.roleName) () t o) ∧
    (∀ (d : Dismantling) t o, d.IsSound → d.IsShort patience →
      Performance (iamFailure? bucket.spec.name) (d.script session wanted.roleName) () t o →
      ((remove bucket patience).run session).Yields t o) ∧
    (∀ r t o, IsRoleless r → (((remove bucket patience).run session).Yields
      (⟨.iam session (.getRole wanted.roleName), r⟩ :: t) o ↔ t = [] ∧ o = .ok ())) ∧
    (∀ t, ((remove bucket patience).run session).After t .cut → IsExhausted patience t) ∧
    ∀ (d : Dismantling) t, Performance (iamFailure? bucket.spec.name)
        (d.script session wanted.roleName) () t (.ok ()) →
      d.arns.Nodup → d.names.Nodup →
      (∀ arn ∈ d.arns, (iamCalls t).count (.detachPolicy wanted.roleName arn) = 1) ∧
      (∀ name ∈ d.names, (iamCalls t).count (.deleteInlinePolicy wanted.roleName name) = 1) ∧
      (iamCalls t).count (.deleteRole wanted.roleName) = 1 := by
  have hscripted : ((remove bucket patience).run session).IsScripted _ _ _ _ := remove_isScripted h
  refine ⟨?_, ?_, fun r t o hr => remove_of_roleless h hr, hscripted.cut, ?_⟩
  · intro t o ht
    obtain ⟨_, _, ⟨r, hr, rfl⟩ | ⟨d, hd, -, rfl⟩, hperformance⟩ := hscripted.keeps t o ht
    · rcases hperformance.of_singleton with ⟨rfl, rfl⟩ | ⟨failed, failure, hcall, hfatal, rfl, rfl⟩
      · exact .inl ⟨r, hr, rfl, rfl⟩
      · -- the first call failed, with which every dismantling may begin
        obtain ⟨d, -, hd⟩ := Dismantling.exists_isSound default
        exact .inr ⟨d, hd, @Performance.broken _ _ _ _ _ _ [] _ _ _ _ rfl hcall hfatal⟩
    · exact .inr ⟨d, hd, hperformance⟩
  · intro d t o hd hshort hperformance
    exact hscripted.performs _ () (.inr ⟨d, hd, hshort, rfl⟩) t o hperformance
  · rintro d _ ⟨⟩ harns hnames
    exact ⟨fun _ => count_detachPolicy harns, fun _ => count_deleteInlinePolicy hnames,
      count_deleteRole d⟩

/-! ### A role with policies on two pages -/

/-- A record that asks for a role. -/
def departing : Bucket where
  metadata := .empty
  spec :=
    { name := "logs"
      expirationDays := none
      reclaimPolicy := .delete
      accessRole := some ⟨"logs-reader", [], "loki", "monitoring"⟩
      tags := [] }
  status := none

/-- Two pages of attached policies, one of which lacks its resource name, an inline policy, and no
instance profile. -/
def pagedDismantling : Dismantling where
  found := ⟨"logs-reader", []⟩
  attached := [(none, ⟨[some "arn:aws:iam::aws:policy/ReadOnly", none], some "next"⟩),
    (some "next", ⟨[some "arn:aws:iam::aws:policy/Audit"], none⟩)]
  inline := [(none, ⟨["logs-reader"], none⟩)]
  removed := .error (.service "NoSuchEntity" 404)
  deleted := .error (.service "NoSuchEntity" 404)

/-- The role is deleted, and the policy of the second page was detached once before. -/
theorem paged_role_taken_apart :
    ((remove departing 2).run default).Yields (pagedDismantling.script default "logs-reader")
      (.ok ()) ∧
    (iamCalls (pagedDismantling.script default "logs-reader")).count
      (.detachPolicy "logs-reader" "arn:aws:iam::aws:policy/Audit") = 1 := by
  obtain ⟨-, hperforms, -, -, hcounts⟩ := role_taken_apart
    (rfl : departing.spec.requestedRole = some ⟨"logs-reader", [], "loki", "monitoring"⟩) default 2
  have habsent : IsSettled (.error (.service "NoSuchEntity" 404) : Except Failure Unit) := by
    rintro _ ⟨⟩
    rfl
  have hsound : pagedDismantling.IsSound :=
    ⟨.more (by simp [Page.IsLast]) rfl (.last (.inl rfl)), .last (.inl rfl), habsent, habsent⟩
  have hshort : pagedDismantling.IsShort 2 := ⟨by decide, by decide⟩
  have hcount := (hcounts pagedDismantling _ .whole (by decide) (by decide)).1
  exact ⟨hperforms _ _ _ hsound hshort .whole, hcount _ (by decide)⟩

end AccessRole

end BucketOperator.Aws
