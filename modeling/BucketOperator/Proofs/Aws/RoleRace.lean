import BucketOperator.Proofs.Aws.Dismantling
import BucketOperator.Proofs.Program.Guarantee
import Mathlib.Data.Set.Insert

/-!
# Roles that others take apart

Somebody else may take a role apart at the same time, so that a call may find its target gone. This
is forgiven for the role when it is looked up and for its instance profile. A listing, a policy that
was listed, and the role when it is deleted at last have to be there still.
-/

namespace BucketOperator.Aws.AccessRole

/-- What IAM keeps of a role and of the instance profile of its name. -/
structure Attachments where
  /-- Whether the role exists. -/
  role : Bool
  attached : Set String
  inline : Set String
  /-- Whether the instance profile exists. -/
  profile : Bool
  /-- Whether the role is in it. -/
  member : Bool

namespace Attachments

/-- Whether what a call is about is there. -/
def HasTarget (s : Attachments) : IamCall → Prop
  | .detachPolicy _ arn => s.role = true ∧ arn ∈ s.attached
  | .deleteInlinePolicy _ name => s.role = true ∧ name ∈ s.inline
  | .removeFromProfile .. => s.profile = true ∧ s.member = true
  | .deleteProfile _ => s.profile = true
  | _ => s.role = true

/-- What is left after a call that was granted. -/
def after (s : Attachments) : IamCall → Attachments
  | .detachPolicy _ arn => { s with attached := s.attached \ {arn} }
  | .deleteInlinePolicy _ name => { s with inline := s.inline \ {name} }
  | .removeFromProfile .. => { s with member := false }
  | .deleteProfile _ => { s with profile := false }
  | .deleteRole _ => { s with role := false }
  | _ => s

/-- Some of what was there is gone. -/
structure Shrinks (s s' : Attachments) : Prop where
  role : s'.role = true → s.role = true
  attached : s'.attached ⊆ s.attached
  inline : s'.inline ⊆ s.inline
  profile : s'.profile = true → s.profile = true
  member : s'.member = true → s.member = true

lemma Shrinks.refl (s : Attachments) : s.Shrinks s :=
  ⟨id, subset_rfl, subset_rfl, id, id⟩

/-- What an answer tells is true: a listing names only what is there. -/
def Tells (s : Attachments) : (call : IamCall) → call.Output → Prop
  | .getRole _, found => found.isSome
  | .listAttachedPolicies .., (page : Page (Option String)) =>
    ∀ arn, some arn ∈ page.entries → arn ∈ s.attached
  | .listInlinePolicies .., (page : Page String) => ∀ name ∈ page.entries, name ∈ s.inline
  | _, _ => True

/-- A call finds what it is about, or need not. -/
def Finds (s : Attachments) : World.Call → Prop
  | .iam _ call => call.forgivesAbsence = true ∨ s.HasTarget call
  | _ => True

end Attachments

/-- IAM as a world in which somebody else takes the role apart as well, as far as they like after
each call. A call fails just when what it is about is not there, and it says so. -/
def racing : Behaviour World Attachments
  | s, .iam _ call, .ok a, s' => s.HasTarget call ∧ s.Tells call a ∧ (s.after call).Shrinks s'
  | s, .iam _ call, .error failure, s' =>
    ¬ s.HasTarget call ∧ failure.isNoSuchEntity = true ∧ s.Shrinks s'
  | s, _, _, s' => s.Shrinks s'

variable {bucket : Bucket} {session : Session} {patience : Nat} {role : String}
  {s s' : Attachments} {t : Trace World}

/-- In this world a call is fatal just when it does not find what it has to find. -/
lemma finds_iff {c : World.Call} {r : c.Answer} (h : racing s c r s') :
    s.Finds c ↔ iamFailure? bucket.spec.name ⟨c, r⟩ = none := by
  cases c with
  | iam session call =>
    rcases r with failure | a
    · obtain ⟨habsent, hfailure, -⟩ := h
      simp [Attachments.Finds, iamFailure?, habsent, hfailure]
    · exact iff_of_true (.inr h.1) rfl
  | _ => exact iff_of_true trivial rfl

lemma iamFailure?_of_settled {call : IamCall} {r : Except Failure call.Output}
    (hcall : call.forgivesAbsence = true) (hr : IsSettled r) :
    iamFailure? bucket.spec.name ⟨.iam session call, r⟩ = none := by
  rcases r with failure | a
  · simp [iamFailure?, hcall, hr failure rfl]
  · rfl

/-- Nothing in a script is fatal. -/
lemma iamFailure?_of_mem_script {d : Dismantling} (hd : d.IsSound) :
    ∀ e ∈ d.script session role, iamFailure? bucket.spec.name e = none := by
  intro e he
  simp only [Dismantling.script, Dismantling.rest, List.mem_cons, List.mem_append, List.mem_map,
    List.not_mem_nil, or_false] at he
  rcases he with rfl | ((⟨_, -, rfl⟩ | ⟨_, -, rfl⟩) | ⟨_, -, rfl⟩ | ⟨_, -, rfl⟩) | rfl | rfl | rfl
  case inr.inr.inl => exact iamFailure?_of_settled rfl hd.removed
  case inr.inr.inr.inl => exact iamFailure?_of_settled rfl hd.deleted
  all_goals rfl

/-- A run succeeds just when no answer in it is fatal. -/
lemma isOk_iff_of_yields {wanted : BucketOperator.AccessRole}
    {o : Except BucketOperator.Failure Unit} (h : bucket.spec.requestedRole = some wanted)
    (ht : ((remove bucket patience).run session).Yields t o) :
    o = .ok () ↔ ∀ e ∈ t, iamFailure? bucket.spec.name e = none := by
  obtain ⟨_, _, ⟨r, hr, rfl⟩ | ⟨d, hd, -, rfl⟩, hperformance⟩ :=
    (remove_isScripted h).keeps t o ht
  · exact hperformance.eq_ok_iff (List.forall_mem_singleton.2 (iamFailure?_of_settled rfl hr.2))
  · exact hperformance.eq_ok_iff (iamFailure?_of_mem_script hd)

/-- However much of a role somebody else takes apart at the same time, a run that ends succeeds just
when every listing, every policy that was listed and at last the role were there when they were
asked for. It is cut only if a listing has more pages than may be asked for. -/
theorem removed_iff_targets_found {wanted : BucketOperator.AccessRole}
    (h : bucket.spec.requestedRole = some wanted) (session : Session) (patience : Nat) :
    (∀ t o s s', ((remove bucket patience).run session).Yields t o → Along racing s t s' →
      (o = .ok () ↔ ∀ before e after m, t = before ++ e :: after → Along racing s before m →
        Along racing m (e :: after) s' → m.Finds e.call)) ∧
    ∀ t, ((remove bucket patience).run session).After t .cut → IsExhausted patience t := by
  refine ⟨?_, (remove_isScripted h).cut⟩
  intro t o s s' ht hworld
  rw [isOk_iff_of_yields h ht]
  constructor
  · rintro hnone before e after m rfl - hm
    cases hm with
    | cons hracing _ =>
      exact (finds_iff hracing).2 (hnone _ (List.mem_append_right _ List.mem_cons_self))
  · intro hfinds e he
    obtain ⟨before, after, rfl⟩ := List.append_of_mem he
    obtain ⟨m, hbefore, hm⟩ := along_append_iff.1 hworld
    have hfound := hfinds before e after m rfl hbefore hm
    cases hm with
    | cons hracing _ => exact (finds_iff hracing).1 hfound

/-! ### A profile and a policy that are gone -/

/-- A role with an instance profile. -/
def enrolled : Attachments := ⟨true, ∅, ∅, true, true⟩

/-- A role without anything. -/
def unenrolled : Attachments := ⟨true, ∅, ∅, false, false⟩

lemma enrolled_shrinks : enrolled.Shrinks unenrolled where
  role := id
  attached := subset_rfl
  inline := subset_rfl
  profile := by rintro ⟨⟩
  member := by rintro ⟨⟩

/-- The role is found, and the calls about its instance profile come too late. -/
def lateForProfile : Trace World :=
  [granted default (.getRole "logs-reader") (some ⟨"logs-reader", []⟩),
    granted default (.listAttachedPolicies "logs-reader" none) ⟨[], none⟩,
    granted default (.listInlinePolicies "logs-reader" none) ⟨[], none⟩,
    ⟨.iam default (.removeFromProfile "logs-reader" "logs-reader"),
      .error (.service "NoSuchEntity" 404)⟩,
    ⟨.iam default (.deleteProfile "logs-reader"), .error (.service "NoSuchEntity" 404)⟩]

/-- An instance profile that somebody else deletes does no harm, and the role is found to the end. -/
theorem late_for_profile_removed :
    ((remove departing 1).run default).Yields
      (lateForProfile ++ [granted default (.deleteRole "logs-reader") ()]) (.ok ()) ∧
    unenrolled.Finds (.iam default (.deleteRole "logs-reader")) := by
  have hyields : ((remove departing 1).run default).Yields
      (lateForProfile ++ [granted default (.deleteRole "logs-reader") ()]) (.ok ()) := by
    repeat apply Program.After.answered
    exact .here _
  have hlate : Along racing enrolled lateForProfile unenrolled :=
    .cons ⟨rfl, rfl, enrolled_shrinks⟩ <|
      .cons ⟨rfl, by rintro _ ⟨⟩, .refl _⟩ <| .cons ⟨rfl, by rintro _ ⟨⟩, .refl _⟩ <|
      .cons ⟨by rintro ⟨⟨⟩, -⟩, rfl, .refl _⟩ <| .cons ⟨by rintro ⟨⟩, rfl, .refl _⟩ <| .nil _
  have hlast : Along racing unenrolled [granted default (.deleteRole "logs-reader") ()]
      (unenrolled.after (.deleteRole "logs-reader")) :=
    .cons ⟨rfl, trivial, .refl _⟩ (.nil _)
  obtain ⟨hiff, -⟩ := removed_iff_targets_found
    (rfl : departing.spec.requestedRole = some ⟨"logs-reader", [], "loki", "monitoring"⟩) default 1
  have hfinds := (hiff _ _ _ _ hyields (hlate.append hlast)).1 rfl
  exact ⟨hyields, hfinds _ _ [] _ rfl hlate hlast⟩

/-- A role with an attached policy. -/
def supplied : Attachments := ⟨true, {"arn:aws:iam::aws:policy/ReadOnly"}, ∅, false, false⟩

lemma supplied_shrinks : supplied.Shrinks unenrolled where
  role := id
  attached := Set.empty_subset _
  inline := subset_rfl
  profile := id
  member := id

/-- The policy is listed, and the call that detaches it comes too late. -/
def lateForPolicy : Trace World :=
  [granted default (.getRole "logs-reader") (some ⟨"logs-reader", []⟩),
    granted default (.listAttachedPolicies "logs-reader" none)
      ⟨[some "arn:aws:iam::aws:policy/ReadOnly"], none⟩,
    ⟨.iam default (.detachPolicy "logs-reader" "arn:aws:iam::aws:policy/ReadOnly"),
      .error (.service "NoSuchEntity" 404)⟩]

/-- A policy that somebody else detaches after it was listed makes the run fail. -/
theorem late_for_policy_fails :
    ((remove departing 1).run default).Yields lateForPolicy
      (.error (.provider "logs" "detach role policy" (.aws (.service "NoSuchEntity" 404)))) ∧
    Along racing supplied lateForPolicy unenrolled := by
  refine ⟨?_, ?_⟩
  · repeat apply Program.After.answered
    exact .here _
  · have htells : supplied.Tells (.listAttachedPolicies "logs-reader" none)
        ⟨[some "arn:aws:iam::aws:policy/ReadOnly"], none⟩ := by
      simp [Attachments.Tells, supplied]
    exact .cons ⟨rfl, rfl, .refl _⟩ <| .cons ⟨rfl, htells, supplied_shrinks⟩ <|
      .cons ⟨by rintro ⟨-, ⟨⟩⟩, rfl, .refl _⟩ <| .nil _

end BucketOperator.Aws.AccessRole
