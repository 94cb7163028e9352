import BucketOperator.Kubernetes.Server
import BucketOperator.Proofs.Kubernetes.Repeating
import BucketOperator.Proofs.Kubernetes.Writing
import Mathlib.Logic.Relation

/-!
# An object that others take away

An object that is deleted is only marked while it has finalizers, and is gone with the last of them.
Others may delete it, or take finalizers off it, between any two calls. A call about an object that
is gone fails with a status that says so, and a call may fail for other reasons as well, whether it
has had its effect or not. What this leaves of an object is followed through reading it, replacing
its finalizers and deleting it.
-/

namespace BucketOperator.Kubernetes

open Json
open Program (Returns ensures_bind)
open Relation (ReflTransGen)

/-! ### What becomes of a document -/

/-- What is left of an object when a document is stored for it: nothing, if it is marked for
deletion and no finalizer keeps it. -/
def stored (document : Json) : Option Json :=
  if Server.isMarked document && !Server.hasFinalizers document then none else some document

/-- What is left of an object whose deletion is granted. -/
def released (document : Json) : Option Json :=
  if Server.hasFinalizers document then some (Server.mark document) else none

/-- What is left of an object after a granted request. -/
def effect (request : Request) (document : Json) : Option Json :=
  match request.action with
  | .get => some document
  | .patch _ body => stored (document.mergePatch body)
  | .delete => released document

/-- What others do to an object: they delete it, or take finalizers off it. -/
inductive Meddles : Option Json → Option Json → Prop where
  | deletes (document : Json) : Meddles (some document) (released document)
  | strips {document : Json} {kept : List String} (h : kept ⊆ finalizersIn document) :
      Meddles (some document) (stored (document.mergePatch (finalizersPatch kept)))

section Documents

variable {document : Json} {kept : List String}

@[simp] lemma finalizersIn_mark : finalizersIn (Server.mark document) = finalizersIn document := by
  simp [finalizersIn, Server.mark, path?_pair]

@[simp] lemma isMarked_mark : Server.isMarked (Server.mark document) = true := by
  simp [Server.isMarked, Server.mark, path?_pair]

@[simp] lemma isMarked_patched :
    Server.isMarked (document.mergePatch (finalizersPatch kept)) = Server.isMarked document := by
  simp [Server.isMarked, mergePatch_finalizersPatch, path?_pair]

end Documents

/-! ### What holds of an object while others meddle -/

/-- Something holds of the document of an object, if it is still there. -/
def Holds (P : Json → Prop) (s : Option Json) : Prop := ∀ document, s = some document → P document

/-- Something goes on to hold of a document when it is marked or loses finalizers. -/
structure IsLasting (P : Json → Prop) : Prop where
  mark : ∀ document, P document → P (Server.mark document)
  strip : ∀ document kept, kept ⊆ finalizersIn document → P document →
    P (document.mergePatch (finalizersPatch kept))

/-- The finalizers of a document are of some kind. -/
def ListsOnly (Q : String → Prop) (document : Json) : Prop := ∀ f ∈ finalizersIn document, Q f

/-- A document is marked for deletion, and its finalizers are of some kind. -/
def IsDoomed (Q : String → Prop) (document : Json) : Prop :=
  Server.isMarked document = true ∧ ListsOnly Q document

section Lasting

variable {P : Json → Prop} {Q : String → Prop} {document : Json} {s s' : Option Json}

@[simp] lemma holds_none : Holds P none := nofun

@[simp] lemma holds_some : Holds P (some document) ↔ P document := by simp [Holds]

lemma Holds.imp {P' : Json → Prop} (hs : Holds P s) (h : ∀ document, P document → P' document) :
    Holds P' s :=
  fun document hdocument => h document (hs document hdocument)

lemma Holds.stored (h : P document) : Holds P (stored document) := by
  rw [Kubernetes.stored]
  split <;> simp [h]

lemma Holds.released (h : P (Server.mark document)) : Holds P (released document) := by
  rw [Kubernetes.released]
  split <;> simp [h]

lemma IsLasting.meddled (hP : IsLasting P) (hs : Holds P s) (h : ReflTransGen Meddles s s') :
    Holds P s' := by
  induction h with
  | refl => exact hs
  | tail _ hstep ih =>
    cases hstep with
    | deletes document => exact Holds.released (hP.mark _ (holds_some.1 ih))
    | strips hkept => exact Holds.stored (hP.strip _ _ hkept (holds_some.1 ih))

lemma isLasting_listsOnly : IsLasting (ListsOnly Q) where
  mark _ h := by
    intro f hf
    rw [finalizersIn_mark] at hf
    exact h f hf
  strip _ _ hkept h := by
    intro f hf
    rw [finalizersIn_patched] at hf
    exact h f (hkept hf)

lemma isLasting_isDoomed : IsLasting (IsDoomed Q) where
  mark _ h := ⟨isMarked_mark, isLasting_listsOnly.mark _ h.2⟩
  strip _ _ hkept h := ⟨isMarked_patched.trans h.1, isLasting_listsOnly.strip _ _ hkept h.2⟩

end Lasting

/-! ### The control plane -/

/-- Whether a failure says that what was asked for is not there. -/
def Failure.IsDenial : Failure → Prop
  | .status code notFound => code = 404 ∨ notFound = true
  | _ => False

/-- How a request is answered, and what it leaves of the object at a path. -/
inductive Handled {α : Type} (read : Tree → Option α) (path : String) (request : Request) :
    Option Json → Reply → Option Json → Prop where
  | elsewhere {s : Option Json} {reply : Reply} (h : request.path ≠ path) :
      Handled read path request s reply s
  /-- The object is gone. -/
  | absent {reply : Reply} (hpath : request.path = path)
      (hreply : reply.outcome = .error (.status 404 true)) :
      Handled read path request none reply none
  /-- A request has its effect, and one for the object shows it. -/
  | granted {document : Json} {reply : Reply} {body : Body} (hpath : request.path = path)
      (hreply : reply.outcome = .ok body)
      (hshown : request.action = .get → body.tree?.bind read = read (.ofJson document)) :
      Handled read path request (some document) reply (effect request document)
  /-- A request fails for another reason, and may have had its effect. -/
  | failed {s s' : Option Json} {reply : Reply} {cause : Failure} (hpath : request.path = path)
      (hreply : reply.outcome = .error cause) (hcause : ¬ cause.IsDenial)
      (h : s' = s ∨ s' = s.bind (effect request)) : Handled read path request s reply s'

/-- The control plane, in which others meddle with the object at a path after each call. -/
def shared {α : Type} (read : Tree → Option α) (path : String) : Behaviour World (Option Json)
  | s, .kubernetes request, (reply : Reply), s' =>
    ∃ m, Handled read path request s reply m ∧ ReflTransGen Meddles m s'
  | s, _, _, s' => ReflTransGen Meddles s s'

/-! ### Addresses -/

/-- An object has a name, and its path can be asked for. -/
structure IsAddress (collection name : String) : Prop where
  named : name ≠ ""
  plain : ∀ c ∈ (collection ++ "/" ++ name).toList, isPathChar c = true

section Addresses

variable {collection name path : String} {action : Action}

lemma isPathText_of_isPathChar (h : ∀ c ∈ path.toList, isPathChar c = true) : IsPathText path := by
  intro c hc
  constructor
  · rintro rfl
    exact absurd (h _ hc) (by decide)
  · rintro rfl
    exact absurd (h _ hc) (by decide)

lemma splitTarget?_path (h : ∀ c ∈ path.toList, isPathChar c = true) :
    splitTarget? path = some (path, none) := by
  have hsplit := split_of_isPathText (isPathText_of_isPathChar h) [] (by simp) rfl
  rw [List.append_nil] at hsplit
  rw [splitTarget?, hsplit]
  dsimp only
  rw [List.all_eq_true.2 h]
  change some (String.ofList path.toList, none) = _
  rw [String.ofList_toList]

lemma splitTarget?_query (h : ∀ c ∈ path.toList, isPathChar c = true) :
    splitTarget? (path ++ "?") = some (path, some "") := by
  have hsplit := split_of_isPathText (isPathText_of_isPathChar h) ['?'] (by decide) rfl
  rw [splitTarget?, String.toList_append, show "?".toList = ['?'] from rfl, hsplit]
  dsimp only
  rw [List.all_eq_true.2 h]
  change some (String.ofList path.toList, some "") = _
  rw [String.ofList_toList]

lemma IsAddress.send_path (h : IsAddress collection name) :
    send action collection name "" = .ask (.kubernetes ⟨action, collection ++ "/" ++ name, none⟩)
      fun (reply : Reply) => .done reply.outcome := by
  rw [send, if_neg h.named, Request.of?, String.append_empty, splitTarget?_path h.plain]
  rfl

lemma IsAddress.send_query (h : IsAddress collection name) :
    send action collection name "?" = .ask
      (.kubernetes ⟨action, collection ++ "/" ++ name, some ""⟩)
      fun (reply : Reply) => .done reply.outcome := by
  rw [send, if_neg h.named, Request.of?, splitTarget?_query h.plain]
  rfl

end Addresses

/-! ### Requests about an object -/

section Requests

variable {α : Type} {read : Tree → Option α} {collection name : String} {patchKind : PatchKind}
  {body : Json}

lemma IsAddress.get?_eq (h : IsAddress collection name) : get? read collection name =
    .ask (.kubernetes ⟨.get, collection ++ "/" ++ name, none⟩) fun (reply : Reply) =>
      .done (told read reply.outcome) := by
  rw [Kubernetes.get?_eq, h.send_path]
  rfl

lemma IsAddress.patch_eq (h : IsAddress collection name) :
    patch read patchKind collection name "" "" body =
      .ask (.kubernetes ⟨.patch patchKind body, collection ++ "/" ++ name, some ""⟩)
        fun (reply : Reply) => .done (reply.outcome.bind (Body.decode read)) := by
  rw [patch, show "" ++ "?" ++ "" = "?" from rfl, h.send_query]
  change Program.ask _ _ = Program.ask _ _
  congr 1
  funext (reply : Reply)
  change Program.bind (.done reply.outcome) _ = .done (reply.outcome.bind (Body.decode read))
  cases reply.outcome <;> rfl

lemma IsAddress.delete_eq (h : IsAddress collection name) : delete read collection name =
    .ask (.kubernetes ⟨.delete, collection ++ "/" ++ name, some ""⟩) fun (reply : Reply) =>
      .done (reply.outcome.bind (Body.decode (readDeleted read))) := by
  rw [delete, h.send_query]
  change Program.ask _ _ = Program.ask _ _
  congr 1
  funext (reply : Reply)
  change Program.bind (.done reply.outcome) _ =
    .done (reply.outcome.bind (Body.decode (readDeleted read)))
  cases reply.outcome <;> rfl

end Requests

/-! ### What calls guarantee of a shared object -/

section Guarantees

variable {α : Type} {read : Tree → Option α} {collection name path : String} {P : Json → Prop}
  {Q : String → Prop} {s s' : Option Json}

lemma eq_none_of_meddled (h : ReflTransGen Meddles none s') : s' = none := by
  have hfalse : IsLasting fun _ => False := ⟨fun _ h => h, fun _ _ _ h => h⟩
  have hs := hfalse.meddled holds_none h
  cases s' with
  | none => rfl
  | some document => exact (hs document rfl).elim

lemma told_of_not_isDenial {cause : Failure} (h : ¬ cause.IsDenial) :
    told read (.error cause) = .error cause := by
  cases cause with
  | status code notFound =>
    cases notFound with
    | true => exact absurd (Or.inr rfl) h
    | false => rfl
  | _ => rfl

lemma idles_shared (hP : IsLasting P) :
    Retry.Idles (shared read path) (fun _ _ => True) (Holds P) where
  clock _ hs := ⟨trivial, fun _ _ h => hP.meddled hs h⟩
  sleep _ _ hs := ⟨trivial, fun _ _ h => hP.meddled hs h⟩

/-- An object that is read as absent is gone. One that is read is shown as it was, and others can
only have taken finalizers off it since. -/
lemma ensures_get_shared (h : IsAddress collection name) :
    (get? read collection name).Ensures (shared read (collection ++ "/" ++ name)) (fun _ _ => True)
      (Returns (fun s' found => (found = .ok none → s' = none) ∧
        ∀ a, found = .ok (some a) → ∃ document, s = some document ∧
          read (.ofJson document) = some a ∧
          Holds (ListsOnly (· ∈ finalizersIn document)) s') fun _ => True) s := by
  rw [h.get?_eq]
  refine ⟨trivial, ?_⟩
  rintro (reply : Reply) s' ⟨m, hhandled, hmeddled⟩
  beta_reduce
  cases hhandled with
  | elsewhere hpath => exact absurd rfl hpath
  | absent _ hreply =>
    rw [hreply]
    exact ⟨fun _ => eq_none_of_meddled hmeddled, by rintro a ⟨⟩⟩
  | @granted document _ body _ hreply hshown =>
    rw [hreply, told, Body.decode, hshown rfl]
    cases hread : read (.ofJson document) with
    | none => exact ⟨by rintro ⟨⟩, by rintro a ⟨⟩⟩
    | some a =>
      refine ⟨by rintro ⟨⟩, ?_⟩
      rintro _ ⟨⟩
      exact ⟨document, rfl, hread,
        isLasting_listsOnly.meddled (holds_some.2 fun _ hf => hf) hmeddled⟩
  | failed _ hreply hcause _ =>
    rw [hreply, told_of_not_isDenial hcause]
    exact ⟨by rintro ⟨⟩, by rintro a ⟨⟩⟩

section Patches

variable {kind : Kind α} {object : α} {finalizers : List String} {patience : Nat}

lemma listsOnly_patched (document : Json) :
    ListsOnly (· ∈ finalizers) (document.mergePatch (finalizersPatch finalizers)) := by
  intro f hf
  rwa [finalizersIn_patched] at hf

/-- A patch of the finalizers that is granted leaves those that it names at most. One that fails may
have been applied. -/
lemma ensures_patch_shared {patchKind : PatchKind} (h : IsAddress collection name)
    (hfinalizers : ∀ f ∈ finalizers, Q f) (hs : Holds (ListsOnly Q) s) :
    (patch read patchKind collection name "" "" (finalizersPatch finalizers)).Ensures
      (shared read (collection ++ "/" ++ name)) (fun _ _ => True)
      (Returns (Retry.EndsAttempt (shared read (collection ++ "/" ++ name)) asksAgain
        (Holds (ListsOnly Q)) fun s' outcome =>
          (∃ a, outcome = .ok a) → Holds (ListsOnly (· ∈ finalizers)) s') fun _ => True) s := by
  rw [h.patch_eq]
  refine ⟨trivial, ?_⟩
  rintro (reply : Reply) s' ⟨m, hhandled, hmeddled⟩
  beta_reduce
  cases hhandled with
  | elsewhere hpath => exact absurd rfl hpath
  | absent _ hreply =>
    rw [hreply]
    exact ⟨by rintro - ⟨_, ⟨⟩⟩, by rintro ⟨⟩⟩
  | @granted document _ body _ hreply _ =>
    rw [hreply]
    refine ⟨fun _ _ => ?_, fun hagain => ?_⟩
    · exact isLasting_listsOnly.meddled (Holds.stored (listsOnly_patched document)) hmeddled
    · rw [Except.bind, Body.decode] at hagain
      split at hagain <;> cases hagain
  | @failed _ m _ cause _ hreply _ hm =>
    rw [hreply]
    refine ⟨by rintro - ⟨_, ⟨⟩⟩, fun _ => ⟨?_, by rintro _ _ _ ⟨_, ⟨⟩⟩⟩⟩
    refine isLasting_listsOnly.meddled ?_ hmeddled
    rcases hm with rfl | rfl
    · exact hs
    · cases s with
      | none => exact holds_none
      | some document =>
        exact Holds.stored fun f hf => hfinalizers f (listsOnly_patched document f hf)

/-- The same of a patch that is repeated. -/
lemma ensures_patchFinalizers_shared
    (h : IsAddress (kind.collectionOf object) (kind.metadata object).anyName)
    (hfinalizers : ∀ f ∈ finalizers, Q f) (hs : Holds (ListsOnly Q) s) :
    (kind.patchFinalizers patience object finalizers).Ensures
      (shared kind.read (kind.collectionOf object ++ "/" ++ (kind.metadata object).anyName))
      (fun _ _ => True)
      (Returns (fun s' r => r = .ok () → Holds (ListsOnly (· ∈ finalizers)) s') fun _ => True)
      s := by
  rw [Kind.patchFinalizers, persist, Program.bind_eq, Program.bind_eq, Program.bind_assoc,
    ensures_bind]
  refine (Retry.ensures_persist (idles_shared isLasting_listsOnly) (fun _ _ => trivial)
    (fun _ hs => ensures_patch_shared h hfinalizers hs) hs).mono (fun _ _ h => h) ?_
  rintro s' (_ | outcome) houtcome
  · trivial
  · intro hok
    cases outcome with
    | ok a => exact houtcome ⟨a, rfl⟩
    | error cause => cases hok

end Patches

/-- A deletion that is granted, or that finds nothing, leaves a marked object at most. -/
lemma ensures_delete_shared (h : IsAddress collection name) (hs : Holds (ListsOnly Q) s) :
    (delete read collection name).Ensures (shared read (collection ++ "/" ++ name))
      (fun _ _ => True)
      (Returns (fun s' r => (r = .ok () ∨ ∃ notFound, r = .error (.status 404 notFound)) →
        Holds (IsDoomed Q) s') fun _ => True) s := by
  rw [h.delete_eq]
  refine ⟨trivial, ?_⟩
  rintro (reply : Reply) s' ⟨m, hhandled, hmeddled⟩ hr
  cases hhandled with
  | elsewhere hpath => exact absurd rfl hpath
  | absent _ _ =>
    rw [eq_none_of_meddled hmeddled]
    exact holds_none
  | @granted document _ body _ _ _ =>
    refine isLasting_isDoomed.meddled (Holds.released ⟨isMarked_mark, ?_⟩) hmeddled
    exact isLasting_listsOnly.mark _ (holds_some.1 hs)
  | @failed _ _ _ cause _ hreply hcause _ =>
    rw [hreply] at hr
    rcases hr with hr | ⟨notFound, hr⟩
    · cases hr
    · cases hr
      exact absurd (Or.inl rfl) hcause

end Guarantees

end BucketOperator.Kubernetes
