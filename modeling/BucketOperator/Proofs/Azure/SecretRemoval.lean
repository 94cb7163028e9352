import BucketOperator.Proofs.Kubernetes.ForeignFinalizers
import BucketOperator.Proofs.Kubernetes.Sharing

/-!
# Removing a secret that others take away

An access secret is looked up, freed of the operator's finalizer and deleted, while others may take
it away at any time. Whenever its removal succeeds, it is gone, or it is marked for deletion and
only finalizers of others keep it. That the secret is gone is forgiven when it is looked up and when
it is deleted, but not when its finalizers are patched.
-/

namespace BucketOperator.Azure.AccessSecret

open Json Kubernetes
open Relation (ReflTransGen)
open Program (Returns ensures_bind yields_ask_iff yields_bind_iff yields_done_iff
  yields_map_iff)

variable {namespaceName name : String} {patience : Nat} {s s' : Option Json} {t : Trace World}
  {secret : Secret}

/-! ### Removal in stages -/

/-- What is made of a deletion: an absent secret is as good as a deleted one. -/
def verdict : Except Kubernetes.Failure Unit → Except BucketOperator.Failure Unit
  | .ok () => .ok ()
  | .error (.status 404 _) => .ok ()
  | .error cause => .error (.controlPlane cause)

/-- Delete the secret once it is free of the operator's finalizer. -/
def discard (namespaceName name : String) :
    Except BucketOperator.Failure Unit → Program World (Except BucketOperator.Failure Unit)
  | .ok () => (Kubernetes.delete Secret.read (secrets namespaceName) name).bind fun outcome =>
      .done (verdict outcome)
  | .error failure => .done (.error failure)

/-- What is done about the secret that was looked up. -/
def dispose (patience : Nat) (namespaceName name : String) :
    Except Kubernetes.Failure (Option Secret) → Program World (Except BucketOperator.Failure Unit)
  | .ok (some secret) =>
    (kind.removeFinalizer patience secret finalizer).bind (discard namespaceName name)
  | .ok none => .done (.ok ())
  | .error cause => .done (.error (.controlPlane cause))

lemma remove_eq : remove patience namespaceName name =
    (get? Secret.read (secrets namespaceName) name).bind (dispose patience namespaceName name) := by
  rw [remove, Program.bind_eq]
  congr 1
  funext found
  rcases found with cause | _ | secret
  · rfl
  · rfl
  simp only [dispose, Program.bind_eq]
  congr 1
  funext outcome
  rcases outcome with failure | ⟨⟩
  · rfl
  simp only [discard]
  congr 1
  funext outcome
  rcases outcome with (⟨code, notFound⟩ | _ | _ | _) | ⟨⟩
  case error.status =>
    by_cases hcode : code = 404
    · subst hcode
      rfl
    · simp [verdict, hcode]
  all_goals rfl

/-! ### What is left of the secret -/

/-- A document is that of the secret with some name. -/
structure IsSecret (namespaceName name : String) (document : Json) : Prop where
  ordered : document.IsOrdered
  named : ∀ secret, Secret.read (.ofJson document) = some secret →
    secret.metadata.namespaceName = some namespaceName ∧ secret.metadata.name = some name

/-- Whether a secret is addressed by its own name. -/
def IsAt (namespaceName name : String) (secret : Secret) : Prop :=
  kind.collectionOf secret = secrets namespaceName ∧ (kind.metadata secret).anyName = name

lemma IsSecret.isAt {document : Json} (h : IsSecret namespaceName name document)
    (hread : Secret.read (.ofJson document) = some secret) : IsAt namespaceName name secret := by
  obtain ⟨hnamespace, hname⟩ := h.named secret hread
  constructor
  · rw [Kind.collectionOf, show kind.metadata secret = secret.metadata from rfl, hnamespace]
    rfl
  · rw [show kind.metadata secret = secret.metadata from rfl, Metadata.anyName, hname]
    rfl

/-- The operator's finalizer is off the secret when taking it off has succeeded. -/
lemma ensures_removeFinalizer {path : String}
    (haddress : IsAddress (kind.collectionOf secret) (kind.metadata secret).anyName)
    (hpath : kind.collectionOf secret ++ "/" ++ (kind.metadata secret).anyName = path)
    (hs : Holds (ListsOnly (· ∈ secret.metadata.finalizers)) s) :
    (kind.removeFinalizer patience secret finalizer).Ensures (shared Secret.read path)
      (fun _ _ => True)
      (Returns (fun s' r => r = .ok () → Holds (ListsOnly (· ≠ finalizer)) s') fun _ => True)
      s := by
  subst hpath
  rw [Kind.removeFinalizer]
  split
  next finalizers hlist =>
    obtain ⟨-, hdrops⟩ := withoutFinalizer?_eq_some_iff.1 hlist
    refine (ensures_patchFinalizers_shared haddress (fun f hf => hdrops.inOrder.subset hf)
      hs).mono (fun _ _ h => h) ?_
    rintro s' (_ | r) h
    · trivial
    · intro hr
      refine (h hr).imp fun _ hlists f hf => ?_
      rintro rfl
      exact hdrops.absent (hlists _ hf)
  next hlist =>
    refine fun _ => hs.imp fun document hlists f hf => ?_
    rintro rfl
    exact withoutFinalizer?_eq_none_iff.1 hlist (hlists _ hf)

/-- A deletion that counts as a success leaves a marked secret at most. -/
lemma ensures_discard {r : Except BucketOperator.Failure Unit}
    (haddress : IsAddress (secrets namespaceName) name)
    (hfreed : r = .ok () → Holds (ListsOnly (· ≠ finalizer)) s) :
    (discard namespaceName name r).Ensures
      (shared Secret.read (secrets namespaceName ++ "/" ++ name)) (fun _ _ => True)
      (Returns (fun s' r => r = .ok () → Holds (IsDoomed (· ≠ finalizer)) s') fun _ => True) s := by
  rcases r with failure | ⟨⟩
  · rintro ⟨⟩
  change ((Kubernetes.delete Secret.read (secrets namespaceName) name).bind
    fun outcome => .done (verdict outcome)).Ensures _ _ _ s
  rw [ensures_bind]
  refine (ensures_delete_shared haddress (hfreed rfl)).mono (fun _ _ h => h) ?_
  rintro s' (_ | outcome) hdeleted
  · trivial
  intro hverdict
  refine hdeleted ?_
  rcases outcome with cause | ⟨⟩
  · unfold verdict at hverdict
    split at hverdict
    next heq => cases heq
    next heq => exact .inr ⟨_, heq⟩
    next => cases hverdict
  · exact .inl rfl

/-- Whenever a removal succeeds, at most a marked secret is left that finalizers of others keep. -/
lemma ensures_remove (haddress : IsAddress (secrets namespaceName) name)
    (hs : Holds (IsSecret namespaceName name) s) :
    (remove patience namespaceName name).Ensures
      (shared Secret.read (secrets namespaceName ++ "/" ++ name)) (fun _ _ => True)
      (Returns (fun s' r => r = .ok () → Holds (IsDoomed (· ≠ finalizer)) s') fun _ => True) s := by
  rw [remove_eq, ensures_bind]
  refine (ensures_get_shared haddress).mono (fun _ _ h => h) ?_
  rintro s₁ (_ | cause | _ | secret) hfound
  · trivial
  · rintro ⟨⟩
  · rintro -
    rw [hfound.1 rfl]
    exact holds_none
  obtain ⟨document, hdocument, hread, hs₁⟩ := hfound.2 secret rfl
  have hsecret := hs document hdocument
  obtain ⟨hcollection, hname⟩ := hsecret.isAt hread
  change ((kind.removeFinalizer patience secret finalizer).bind
    (discard namespaceName name)).Ensures _ _ _ s₁
  rw [ensures_bind]
  refine (ensures_removeFinalizer (by rwa [hcollection, hname]) (by rw [hcollection, hname])
    (hs₁.imp fun _ hlists => ?_)).mono (fun _ _ h => h) ?_
  · rwa [finalizersIn_of_secret hsecret.ordered hread] at hlists
  rintro s₂ (_ | r) hfreed
  · trivial
  · exact ensures_discard haddress hfreed

/-! ### Removals that meet nothing worse than an absent secret -/

/-- A request about a secret has succeeded: what was answered can be read. -/
def HasSucceeded (request : Request) (reply : Reply) : Prop :=
  ∃ body, reply.outcome = .ok body ∧
    match request.action with
    | .delete => ∃ u, body.tree?.bind (readDeleted Secret.read) = some u
    | _ => ∃ secret, body.tree?.bind Secret.read = some secret

/-- A request has failed since the secret is gone. -/
def HasMissed (reply : Reply) : Prop := reply.outcome = .error (.status 404 true)

/-- Whatever has failed has done so since the secret is gone. -/
def OnlyMisses (t : Trace World) : Prop :=
  ∀ request reply, (⟨.kubernetes request, reply⟩ : Exchange World) ∈ t →
    HasSucceeded request reply ∨ HasMissed reply

/-- A patch has come too late: the secret is gone. -/
def IsLate (e : Exchange World) : Prop :=
  ∃ request reply kind body, e = ⟨.kubernetes request, reply⟩ ∧
    request.action = .patch kind body ∧ HasMissed reply

lemma OnlyMisses.mono {u : Trace World} (h : OnlyMisses t) (hu : u ⊆ t) : OnlyMisses u :=
  fun request reply he => h request reply (hu he)

/-- A request that may be made with a success or an absence asks for no other one. -/
lemma not_isTemporary {α : Type} {request : Request} {reply : Reply}
    {read : Tree → Option α} (h : HasSucceeded request reply ∨ HasMissed reply) :
    ¬ IsTemporary (reply.outcome.bind (Body.decode read)) := by
  rcases h with ⟨body, hbody, -⟩ | hmissed
  · rw [hbody, Except.bind, Body.decode]
    split <;> rintro ⟨⟩
  · rw [hmissed]
    rintro (_ | ⟨_, h⟩)
    omega

section Patching

variable {finalizers : List String}

/-- The patch of the finalizers of a secret, as a request. -/
def patchRequest (secret : Secret) (finalizers : List String) : Request :=
  ⟨.patch .merge (finalizersPatch finalizers),
    kind.collectionOf secret ++ "/" ++ (kind.metadata secret).anyName, some ""⟩

lemma patch_eq (haddress : IsAddress (kind.collectionOf secret) (kind.metadata secret).anyName) :
    patch kind.read .merge (kind.collectionOf secret) (kind.metadata secret).anyName "" ""
      (finalizersPatch finalizers) = .ask (.kubernetes (patchRequest secret finalizers))
        fun (reply : Reply) => .done (reply.outcome.bind (Body.decode Secret.read)) :=
  haddress.patch_eq

/-- Such a patch asks for no other one. -/
lemma not_isTemporary_patch {outcome : Except Kubernetes.Failure Secret} {u : Trace World}
    (haddress : IsAddress (kind.collectionOf secret) (kind.metadata secret).anyName)
    (hmisses : OnlyMisses t) (hu : u ⊆ t)
    (h : (patch kind.read .merge (kind.collectionOf secret) (kind.metadata secret).anyName "" ""
      (finalizersPatch finalizers)).Yields u outcome) : ¬ IsTemporary outcome := by
  rw [patch_eq haddress] at h
  obtain ⟨reply, rfl, rfl⟩ := yields_request_iff.1 h
  exact not_isTemporary (hmisses _ reply (hu List.mem_cons_self))

/-- The finalizers of a secret are patched once, and that fails just when the patch is late. -/
lemma yields_patchFinalizers {r : Except BucketOperator.Failure Unit}
    (haddress : IsAddress (kind.collectionOf secret) (kind.metadata secret).anyName)
    (hmisses : OnlyMisses t)
    (h : (kind.patchFinalizers patience secret finalizers).Yields t r) :
    (r = .ok () ∧ ∀ e ∈ t, ¬ IsLate e) ∨
      r = .error (.controlPlane (.status 404 true)) ∧ ∃ e ∈ t, IsLate e := by
  obtain ⟨outcome, hpersist, rfl⟩ := yields_map_iff.1 h
  obtain ⟨ending, hpersists, hwraps⟩ := yields_persist_iff.1 hpersist
  obtain ⟨start, u, rfl, hlast⟩ := hpersists.exists_only fun u a hu ha =>
    not_isTemporary_patch haddress hmisses hu ha
  rw [patch_eq haddress] at hlast
  obtain ⟨reply, rfl, hending⟩ := yields_request_iff.1 hlast
  rw [hending] at hwraps
  rcases hmisses _ reply (List.mem_cons_of_mem _ List.mem_cons_self) with
    ⟨body, hbody, found, hfound⟩ | hmissed
  · rw [hbody, Except.bind, Body.decode, hfound] at hwraps
    cases hwraps
    refine .inl ⟨rfl, ?_⟩
    rintro e he ⟨_, reply', _, _, rfl, _, hmissed⟩
    rcases List.mem_cons.1 he with he | he
    · cases he
    · cases List.mem_singleton.1 he
      rw [HasMissed, hbody] at hmissed
      cases hmissed
  · rw [show reply.outcome = _ from hmissed] at hwraps
    cases hwraps
    exact .inr ⟨rfl, _, List.mem_cons_of_mem _ List.mem_cons_self, _, reply, _, _, rfl, rfl,
      hmissed⟩

/-- A patch that is not repeated comes to what is read from its reply. -/
lemma yields_patchFinalizers_once {reply : Reply} {now : Nat}
    {outcome : Except Kubernetes.Failure Secret} {r : Except BucketOperator.Failure Secret}
    (haddress : IsAddress (kind.collectionOf secret) (kind.metadata secret).anyName)
    (houtcome : reply.outcome.bind (Body.decode Secret.read) = outcome)
    (hlast : ¬ IsTemporary outcome) (hr : Wraps outcome r) :
    (kind.patchFinalizers (patience + 1) secret finalizers).Yields
      [⟨.clock, now⟩, ⟨.kubernetes (patchRequest secret finalizers), reply⟩]
      (r.map fun _ => ()) := by
  subst houtcome
  refine yields_map_iff.2 ⟨r, yields_persist_iff.2 ⟨.settled _, ⟨now, [], _, rfl, Nat.succ_pos _,
    .settled Retry.repeated_nil ?_ hlast⟩, hr⟩, rfl⟩
  rw [patch_eq haddress]
  exact .answered (.here _)

lemma not_patchFinalizers_after_cut (hpatience : 0 < patience)
    (haddress : IsAddress (kind.collectionOf secret) (kind.metadata secret).anyName)
    (hmisses : OnlyMisses t) :
    ¬ (kind.patchFinalizers patience secret finalizers).After t .cut := by
  intro h
  rcases (persist_after_cut_iff.1 (Program.map_after_cut_iff.1 h)).exists_again hpatience with
    ⟨u, outcome, hu, ha, hagain⟩ | ⟨u, hu, hcut⟩
  · exact not_isTemporary_patch haddress hmisses hu ha hagain
  · rw [patch_eq haddress] at hcut
    obtain ⟨_, _, _, hdone⟩ := Program.ask_after_cut_iff.1 hcut
    exact Program.not_done_after_cut hdone

end Patching

/-! ### Removals that come to an end -/

/-- The request that looks a secret up. -/
def lookupRequest (namespaceName name : String) : Request :=
  ⟨.get, secrets namespaceName ++ "/" ++ name, none⟩

/-- The request that deletes a secret. -/
def deleteRequest (namespaceName name : String) : Request :=
  ⟨.delete, secrets namespaceName ++ "/" ++ name, some ""⟩

/-- What the lookup of a secret finds, when it does not fail for another reason. -/
inductive Finds (namespaceName name : String) (s : Option Json) (reply : Reply) :
    Except Kubernetes.Failure (Option Secret) → Prop where
  | nothing (h : HasMissed reply) : Finds namespaceName name s reply (.ok none)
  | secret {secret : Secret} (h : IsAt namespaceName name secret) :
      Finds namespaceName name s reply (.ok (some secret))

lemma finds_of_handled {reply : Reply} (hs : Holds (IsSecret namespaceName name) s)
    (hreply : HasSucceeded (lookupRequest namespaceName name) reply ∨ HasMissed reply)
    (h : Handled Secret.read (secrets namespaceName ++ "/" ++ name)
      (lookupRequest namespaceName name) s reply s') :
    Finds namespaceName name s reply (told Secret.read reply.outcome) := by
  rcases hreply with ⟨body, hbody, secret, hsecret⟩ | hmissed
  · rw [hbody, told, Body.decode, hsecret]
    cases h with
    | elsewhere hpath => exact absurd rfl hpath
    | absent _ hgone =>
      rw [hbody] at hgone
      cases hgone
    | @granted document _ body' _ hgranted hshown =>
      rw [hbody] at hgranted
      cases hgranted
      rw [hsecret] at hshown
      exact .secret ((holds_some.1 hs).isAt (hshown rfl).symm)
    | failed _ hfailed _ _ =>
      rw [hbody] at hfailed
      cases hfailed
  · rw [show reply.outcome = _ from hmissed]
    exact .nothing hmissed

/-- A secret that was found is freed, and that fails just when the patch is late. -/
lemma yields_removeFinalizer {r : Except BucketOperator.Failure Unit}
    (haddress : IsAddress (kind.collectionOf secret) (kind.metadata secret).anyName)
    (hmisses : OnlyMisses t) (h : (kind.removeFinalizer patience secret finalizer).Yields t r) :
    (r = .ok () ∧ ∀ e ∈ t, ¬ IsLate e) ∨
      r = .error (.controlPlane (.status 404 true)) ∧ ∃ e ∈ t, IsLate e := by
  rw [Kind.removeFinalizer] at h
  split at h
  · exact yields_patchFinalizers haddress hmisses h
  · obtain ⟨rfl, rfl⟩ := yields_done_iff.1 h
    exact .inl ⟨rfl, List.forall_mem_nil _⟩

lemma not_isLate_of_request {request : Request} {reply : Reply}
    (h : ∀ kind body, request.action ≠ .patch kind body) :
    ¬ IsLate ⟨.kubernetes request, reply⟩ := by
  rintro ⟨_, _, kind, body, he, haction, _⟩
  cases he
  exact h kind body haction

/-- Deleting the secret succeeds, whether it is there or not. -/
lemma yields_discard {r : Except BucketOperator.Failure Unit}
    (haddress : IsAddress (secrets namespaceName) name) (hmisses : OnlyMisses t)
    (h : (discard namespaceName name (.ok ())).Yields t r) : r = .ok () ∧ ∀ e ∈ t, ¬ IsLate e := by
  obtain ⟨outcome, hdelete, rfl⟩ := yields_map_iff.1 h
  rw [haddress.delete_eq] at hdelete
  obtain ⟨reply, rfl, rfl⟩ := yields_request_iff.1 hdelete
  refine ⟨?_, ?_⟩
  · rcases hmisses _ reply List.mem_cons_self with ⟨body, hbody, u, hu⟩ | hmissed
    · rw [hbody, Except.bind, Body.decode, hu]
      rfl
    · rw [show reply.outcome = _ from hmissed]
      rfl
  · intro e he
    cases List.mem_singleton.1 he
    exact not_isLate_of_request (by rintro _ _ ⟨⟩)

lemma yields_dispose {r : Except BucketOperator.Failure Unit} {reply : Reply}
    {found : Except Kubernetes.Failure (Option Secret)}
    (haddress : IsAddress (secrets namespaceName) name) (hmisses : OnlyMisses t)
    (hfound : Finds namespaceName name s reply found)
    (h : (dispose patience namespaceName name found).Yields t r) :
    (r = .ok () ∧ ∀ e ∈ t, ¬ IsLate e) ∨
      r = .error (.controlPlane (.status 404 true)) ∧ ∃ e ∈ t, IsLate e := by
  cases hfound with
  | nothing _ =>
    obtain ⟨rfl, rfl⟩ := yields_done_iff.1 h
    exact .inl ⟨rfl, List.forall_mem_nil _⟩
  | @secret secret hat =>
    obtain ⟨t₁, t₂, outcome, rfl, hfree, hrest⟩ := yields_bind_iff.1 h
    have hown : IsAddress (kind.collectionOf secret) (kind.metadata secret).anyName := by
      rwa [hat.1, hat.2]
    rcases yields_removeFinalizer hown (hmisses.mono (List.subset_append_left _ _)) hfree with
      ⟨rfl, hnone⟩ | ⟨rfl, e, he, hlate⟩
    · obtain ⟨rfl, hnone'⟩ := yields_discard haddress
        (hmisses.mono (List.subset_append_right _ _)) hrest
      refine .inl ⟨rfl, fun e he => ?_⟩
      exact (List.mem_append.1 he).elim (hnone e) (hnone' e)
    · obtain ⟨rfl, rfl⟩ := yields_done_iff.1 hrest
      exact .inr ⟨rfl, e, List.mem_append_left _ he, hlate⟩

lemma not_dispose_after_cut {reply : Reply} {found : Except Kubernetes.Failure (Option Secret)}
    (hpatience : 0 < patience) (haddress : IsAddress (secrets namespaceName) name)
    (hmisses : OnlyMisses t) (hfound : Finds namespaceName name s reply found) :
    ¬ (dispose patience namespaceName name found).After t .cut := by
  intro h
  cases hfound with
  | nothing _ => exact Program.not_done_after_cut h
  | @secret secret hat =>
    have hown : IsAddress (kind.collectionOf secret) (kind.metadata secret).anyName := by
      rwa [hat.1, hat.2]
    rcases Program.bind_after_cut_iff.1 h with h | ⟨t₁, t₂, outcome, rfl, -, h⟩
    · rw [Kind.removeFinalizer] at h
      split at h
      · exact not_patchFinalizers_after_cut hpatience hown hmisses h
      · exact Program.not_done_after_cut h
    · rcases outcome with failure | ⟨⟩
      · exact Program.not_done_after_cut h
      · rw [discard, Program.map_after_cut_iff, haddress.delete_eq] at h
        obtain ⟨_, _, _, hdone⟩ := Program.ask_after_cut_iff.1 h
        exact Program.not_done_after_cut hdone

lemma remove_eq_ask (haddress : IsAddress (secrets namespaceName) name) :
    remove patience namespaceName name =
      .ask (.kubernetes (lookupRequest namespaceName name)) fun (reply : Reply) =>
        dispose patience namespaceName name (told Secret.read reply.outcome) := by
  rw [remove_eq, haddress.get?_eq]
  rfl

/-- However others take a secret away while it is removed, a removal that succeeds leaves nothing of
it, or a marked secret that only finalizers of others keep. A removal in which nothing fails but for
the secret being gone comes to an end, and it succeeds just when the patch of the finalizers, if
there is one, is not late; otherwise it reports that the secret is gone. -/
theorem removed_iff_patched_in_time (hpatience : 0 < patience)
    (haddress : IsAddress (secrets namespaceName) name)
    (hs : ∀ document, s = some document → IsSecret namespaceName name document)
    (ht : Along (shared Secret.read (secrets namespaceName ++ "/" ++ name)) s t s') :
    ((remove patience namespaceName name).Yields t (.ok ()) →
      ∀ document, s' = some document →
        Kubernetes.Server.isMarked document = true ∧ finalizer ∉ finalizersIn document) ∧
    (OnlyMisses t → ∀ r, (remove patience namespaceName name).Yields t r →
      (r = .ok () ↔ ∀ e ∈ t, ¬ IsLate e) ∧
      (r = .error (.controlPlane (.status 404 true)) ↔ ∃ e ∈ t, IsLate e)) ∧
    (OnlyMisses t → ¬ (remove patience namespaceName name).After t .cut) := by
  have hfinds : ∀ {reply : Reply} {u : Trace World},
      t = ⟨.kubernetes (lookupRequest namespaceName name), reply⟩ :: u → OnlyMisses t →
        Finds namespaceName name s reply (told Secret.read reply.outcome) := by
    rintro reply u rfl hmisses
    cases ht with
    | cons hlookup _ =>
      obtain ⟨m, hhandled, -⟩ := hlookup
      exact finds_of_handled hs (hmisses _ reply List.mem_cons_self) hhandled
  refine ⟨?_, ?_, ?_⟩
  · intro h document hdocument
    obtain ⟨hmarked, hlists⟩ := (ensures_remove haddress hs).along h ht rfl document hdocument
    exact ⟨hmarked, fun hmem => hlists _ hmem rfl⟩
  · intro hmisses r h
    rw [remove_eq_ask haddress] at h
    obtain ⟨(reply : Reply), u, rfl, hrest⟩ := yields_ask_iff.1 h
    have hrest := yields_dispose haddress (hmisses.mono (List.subset_cons_self _ _))
      (hfinds rfl hmisses) hrest
    have hlookup : ¬ IsLate ⟨.kubernetes (lookupRequest namespaceName name), reply⟩ :=
      not_isLate_of_request (by rintro _ _ ⟨⟩)
    rcases hrest with ⟨rfl, hnone⟩ | ⟨rfl, e, he, hlate⟩
    · have hnone : ∀ e ∈ (⟨.kubernetes (lookupRequest namespaceName name), reply⟩ :
          Exchange World) :: u, ¬ IsLate e := List.forall_mem_cons.2 ⟨hlookup, hnone⟩
      exact ⟨iff_of_true rfl hnone, iff_of_false nofun fun ⟨e, he, hlate⟩ => hnone e he hlate⟩
    · have he := List.mem_cons_of_mem ⟨.kubernetes (lookupRequest namespaceName name), reply⟩ he
      exact ⟨iff_of_false nofun fun hnone => hnone e he hlate, iff_of_true rfl ⟨e, he, hlate⟩⟩
  · intro hmisses h
    rw [remove_eq_ask haddress] at h
    obtain ⟨(reply : Reply), u, rfl, hrest⟩ := Program.ask_after_cut_iff.1 h
    exact not_dispose_after_cut hpatience haddress (hmisses.mono (List.subset_cons_self _ _))
      (hfinds rfl hmisses) hrest

/-! ### A secret with a finalizer of somebody else -/

section Keys

/-- The document of a secret with some finalizers. -/
def keyDocument (finalizers : List String) : Json :=
  .object [
    ("metadata", .object [
      ("finalizers", .strings finalizers),
      ("name", .string "keys"),
      ("namespace", .string "loki")])]

/-- The document of the secret at first, while the operator and somebody else keep it. -/
def guardedDocument : Json := keyDocument [finalizer, "example.com/backup"]

/-- The secret as it is read then. -/
def guardedSecret : Secret :=
  ⟨⟨some "keys", none, some "loki", some [finalizer, "example.com/backup"], none⟩, none⟩

/-- The document of the secret when only somebody else keeps it. -/
def foreignDocument : Json := keyDocument ["example.com/backup"]

lemma isAddress_keys : IsAddress (secrets "loki") "keys" :=
  ⟨by decide, List.all_eq_true.1 (by decide +kernel)⟩

lemma read_guardedDocument : Secret.read (.ofJson guardedDocument) = some guardedSecret := rfl

lemma isSecret_guardedDocument : ∀ document, some guardedDocument = some document →
    IsSecret "loki" "keys" document := by
  rintro _ ⟨⟩
  have hvalue : (Tree.ofJson guardedDocument).value? = some guardedDocument := rfl
  refine ⟨isOrdered_of_value? hvalue, ?_⟩
  intro secret hread
  rw [read_guardedDocument] at hread
  cases hread
  exact ⟨rfl, rfl⟩

/-- How a document is shown. -/
def showing (document : Json) : Reply := .answered 200 (.json document)

/-- The secret is looked up, the patch of its finalizers is answered, and what is left to do is done
after that. -/
def removingRun (reply : Reply) (rest : Trace World) : Trace World :=
  ⟨.kubernetes (lookupRequest "loki" "keys"), showing guardedDocument⟩ :: ⟨.clock, (0 : Nat)⟩ ::
    ⟨.kubernetes (patchRequest guardedSecret ["example.com/backup"]), reply⟩ :: rest

lemma yields_removingRun {reply : Reply} {rest : Trace World}
    {outcome : Except Kubernetes.Failure Secret} {failure : Except BucketOperator.Failure Secret}
    {r : Except BucketOperator.Failure Unit}
    (houtcome : reply.outcome.bind (Body.decode Secret.read) = outcome)
    (hlast : ¬ IsTemporary outcome) (hwraps : Wraps outcome failure)
    (hrest : (discard "loki" "keys" (failure.map fun _ => ())).Yields rest r) :
    (remove 1 "loki" "keys").Yields (removingRun reply rest) r := by
  have hlist : withoutFinalizer? (kind.metadata guardedSecret).finalizers finalizer =
      some ["example.com/backup"] := by decide
  rw [remove_eq_ask isAddress_keys]
  refine .answered ?_
  change ((kind.removeFinalizer 1 guardedSecret finalizer).bind (discard "loki" "keys")).Yields _ r
  rw [Kind.removeFinalizer, hlist]
  exact yields_bind_iff.2 ⟨_, rest, _, rfl,
    yields_patchFinalizers_once isAddress_keys houtcome hlast hwraps, hrest⟩

/-- The secret is shown as it is at first. -/
lemma handled_lookup : Handled Secret.read (secrets "loki" ++ "/" ++ "keys")
    (lookupRequest "loki" "keys") (some guardedDocument) (showing guardedDocument)
    (some guardedDocument) :=
  .granted rfl rfl fun _ => rfl

/-- Somebody takes the finalizers off the secret and deletes it. -/
lemma meddles_vanished : ReflTransGen Meddles (some guardedDocument) none := by
  have hstripped : stored (guardedDocument.mergePatch (finalizersPatch [])) =
      some (keyDocument []) := by
    rw [mergePatch_finalizersPatch]
    rfl
  have hstrips := Meddles.strips (List.nil_subset (finalizersIn guardedDocument))
  rw [hstripped] at hstrips
  exact .tail (.single hstrips) (.deletes (keyDocument []))

/-- A secret that vanishes after it was looked up is not removed without an error, although nothing
fails but the patch of its finalizers, since it is gone. -/
theorem vanished_secret_fails :
    Along (shared Secret.read (secrets "loki" ++ "/" ++ "keys")) (some guardedDocument)
      (removingRun Kubernetes.Server.absent []) none ∧
    OnlyMisses (removingRun Kubernetes.Server.absent []) ∧
    (remove 1 "loki" "keys").Yields (removingRun Kubernetes.Server.absent [])
      (.error (.controlPlane (.status 404 true))) := by
  refine ⟨?_, ?_, ?_⟩
  · exact .cons ⟨_, handled_lookup, meddles_vanished⟩
      (.cons .refl (.cons ⟨none, .absent rfl outcome_absent, .refl⟩ (.nil none)))
  · rintro request reply he
    rcases List.mem_cons.1 he with he | he
    · cases he
      exact .inl ⟨_, rfl, guardedSecret, rfl⟩
    · rcases List.mem_cons.1 he with he | he
      · cases he
      · cases List.mem_singleton.1 he
        exact .inr outcome_absent
  · have hmissed : Kubernetes.Server.absent.outcome.bind (Body.decode Secret.read) =
        .error (.status 404 true) := by
      rw [outcome_absent]
      rfl
    have hlast : ¬ IsTemporary (.error (.status 404 true) : Except Kubernetes.Failure Secret) := by
      rw [← hmissed]
      exact not_isTemporary (.inr outcome_absent : HasSucceeded (lookupRequest "loki" "keys") _ ∨ _)
    exact yields_removingRun hmissed hlast (.failure _) (.here _)

/-- The secret is patched in time, and then deleted. -/
def timelyRun : Trace World :=
  removingRun (showing foreignDocument)
    [⟨.kubernetes (deleteRequest "loki" "keys"), showing (Kubernetes.Server.mark foreignDocument)⟩]

lemma along_timelyRun : Along (shared Secret.read (secrets "loki" ++ "/" ++ "keys"))
    (some guardedDocument) timelyRun (some (Kubernetes.Server.mark foreignDocument)) := by
  have hpatched : effect (patchRequest guardedSecret ["example.com/backup"]) guardedDocument =
      some foreignDocument := by
    change stored (guardedDocument.mergePatch (finalizersPatch ["example.com/backup"])) = _
    rw [mergePatch_finalizersPatch]
    rfl
  have hpatch : Handled Secret.read (secrets "loki" ++ "/" ++ "keys")
      (patchRequest guardedSecret ["example.com/backup"]) (some guardedDocument)
      (showing foreignDocument) (some foreignDocument) := by
    rw [← hpatched]
    exact .granted rfl rfl (by rintro ⟨⟩)
  have hdelete : Handled Secret.read (secrets "loki" ++ "/" ++ "keys")
      (deleteRequest "loki" "keys") (some foreignDocument)
      (showing (Kubernetes.Server.mark foreignDocument))
      (some (Kubernetes.Server.mark foreignDocument)) :=
    .granted rfl rfl (by rintro ⟨⟩)
  exact .cons ⟨_, handled_lookup, .refl⟩ (.cons .refl (.cons ⟨_, hpatch, .refl⟩
    (.cons ⟨_, hdelete, .refl⟩ (.nil _))))

/-- A secret that is still there when its finalizers are patched is removed: somebody else keeps a
marked secret. -/
theorem foreign_secret_removed :
    (remove 1 "loki" "keys").Yields timelyRun (.ok ()) ∧
    Kubernetes.Server.isMarked (Kubernetes.Server.mark foreignDocument) = true ∧
    finalizer ∉ finalizersIn (Kubernetes.Server.mark foreignDocument) := by
  have hread : (showing foreignDocument).outcome.bind (Body.decode Secret.read) =
      .ok { guardedSecret with metadata :=
        { guardedSecret.metadata with finalizerList := some ["example.com/backup"] } } :=
    rfl
  have hyields : (remove 1 "loki" "keys").Yields timelyRun (.ok ()) := by
    refine yields_removingRun hread nofun (.value _) (yields_map_iff.2 ⟨.ok (), ?_, rfl⟩)
    rw [isAddress_keys.delete_eq]
    exact yields_request_iff.2 ⟨_, rfl, rfl⟩
  exact ⟨hyields, (removed_iff_patched_in_time Nat.one_pos isAddress_keys isSecret_guardedDocument
    along_timelyRun).1 hyields _ rfl⟩

end Keys

end BucketOperator.Azure.AccessSecret
