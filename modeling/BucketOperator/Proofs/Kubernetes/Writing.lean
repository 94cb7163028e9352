import BucketOperator.Proofs.Kubernetes.Patching
import BucketOperator.Proofs.Retry
import Mathlib.Data.List.TakeDrop
import Mathlib.Data.List.TakeWhile

/-!
# Objects in the control plane

The control plane keeps the document of an object and merges patches into it. A patch that is sent
again and again may be merged more than once, and one that seems to have failed may have been
merged as well; once it has been granted, it has been merged.
-/

namespace BucketOperator.Kubernetes

open Json
open Program (ensures_bind Returns)

/-! ### Addresses -/

/-- Nothing in a text ends the path of a target, as is so for the names that objects can have. -/
def IsPathText (text : String) : Prop := ∀ c ∈ text.toList, c ≠ '?' ∧ c ≠ '#'

section Addresses

variable {path : String} {action : Action} {request : Request}

lemma isPathText_of_all (h : (path.toList.all fun c => c != '?' && c != '#') = true) :
    IsPathText path := by
  simpa [IsPathText] using h

lemma IsPathText.append {rest : String} (h : IsPathText path) (hrest : IsPathText rest) :
    IsPathText (path ++ rest) := by
  intro c hc
  rw [String.toList_append, List.mem_append] at hc
  exact hc.elim (h c) (hrest c)

/-- A target that goes on after the path is cut where the path ends. -/
lemma split_of_isPathText (h : IsPathText path) (rest : List Char) (hsharp : '#' ∉ rest)
    (hrest : rest.takeWhile (· != '?') = []) :
    ((path.toList ++ rest).takeWhile (· != '#')).span (· != '?') = (path.toList, rest) := by
  have hwhole : (path.toList ++ rest).takeWhile (· != '#') = path.toList ++ rest := by
    refine List.takeWhile_eq_self_iff.2 ?_
    intro c hc
    rcases List.mem_append.1 hc with hc | hc
    · simpa using (h c hc).2
    · exact bne_iff_ne.2 fun heq => hsharp (heq ▸ hc)
  have hpath : ∀ c ∈ path.toList, (c != '?') = true := fun c hc => bne_iff_ne.2 (h c hc).1
  have hdrop : rest.dropWhile (· != '?') = rest := by
    have happend := List.takeWhile_append_dropWhile (p := (· != '?')) (l := rest)
    rwa [hrest, List.nil_append] at happend
  rw [hwhole, List.span_eq_takeWhile_dropWhile, List.takeWhile_append_of_pos hpath,
    List.dropWhile_append_of_pos hpath, hrest, hdrop, List.append_nil]

/-- The request for a target without a query. -/
lemma Request.eq_of_path (h : IsPathText path) (hrequest : Request.of? action path = some request) :
    request = ⟨action, path, none⟩ := by
  have hsplit := split_of_isPathText h [] (by simp) rfl
  rw [List.append_nil] at hsplit
  obtain ⟨target, htarget, rfl⟩ := Option.map_eq_some_iff.1 hrequest
  rw [splitTarget?, hsplit] at htarget
  obtain ⟨_, _, htarget⟩ := Option.bind_eq_some_iff.1 htarget
  cases htarget
  rw [String.ofList_toList]

/-- The request for a target with an empty query. -/
lemma Request.eq_of_query (h : IsPathText path)
    (hrequest : Request.of? action (path ++ "?") = some request) :
    request = ⟨action, path, some ""⟩ := by
  have hsplit := split_of_isPathText h ['?'] (by decide) rfl
  obtain ⟨target, htarget, rfl⟩ := Option.map_eq_some_iff.1 hrequest
  rw [splitTarget?, String.toList_append, show "?".toList = ['?'] from rfl, hsplit] at htarget
  obtain ⟨_, _, htarget⟩ := Option.bind_eq_some_iff.1 htarget
  obtain ⟨_, _, htarget⟩ := Option.bind_eq_some_iff.1 htarget
  cases htarget
  rw [String.ofList_toList]

/-- What is asked about an object of a collection, if anything. -/
lemma send_cases (action : Action) (collection name tail : String) :
    send action collection name tail = .done (.error .other) ∨
      ∃ request, Request.of? action (collection ++ "/" ++ name ++ tail) = some request ∧
        send action collection name tail =
          .ask (.kubernetes request) fun (reply : Reply) => .done reply.outcome := by
  unfold send
  split
  · exact .inl rfl
  · cases h : Request.of? action (collection ++ "/" ++ name ++ tail) with
    | none => exact .inl rfl
    | some request => exact .inr ⟨request, rfl, rfl⟩

end Addresses

/-! ### A document in the control plane -/

/-- What is left of the document of an object, kept at a path, after a request was granted. -/
def patched (path : String) (request : Request) (document : Json) : Json :=
  match request.action with
  | .patch .merge body =>
    if request.path = path then document.mergePatch body
    else if request.path = path ++ "/status" then
      document.mergePatch (.object [("status", (body.get? "status").getD .null)])
    else document
  | _ => document

/-- The control plane keeps the document of an object, and nobody else writes it. A request that
was not granted may have had its effect; a granted reading shows what is read from the document. -/
def keeping {α : Type} (read : Tree → Option α) (path : String) : Behaviour World Json
  | document, .kubernetes request, (reply : Reply), document' =>
    (document' = patched path request document ∨
      document' = document ∧ ∀ body, reply.outcome ≠ .ok body) ∧
    (request.action = .get → request.path = path → ∀ body, reply.outcome = .ok body →
      body.tree?.bind read = read (.ofJson document))
  | document, _, _, document' => document' = document

/-- A change was made, perhaps more than once; a success tells that it was made. -/
def Applied {ε α : Type} (change : Json → Json) (outcome : Except ε α)
    (document document' : Json) : Prop :=
  ∃ n, document' = change^[n] document ∧ (outcome.isOk = true → 0 < n)

/-- Whether a call asks for a patch. -/
def IsPatch (c : World.Call) : Prop :=
  ∃ request kind body, c = .kubernetes request ∧ request.action = .patch kind body

section Keeping

variable {α β : Type} {read : Tree → Option α} {path collection name : String}
  {document d : Json}

lemma isIdle_keeping : Retry.IsIdle (keeping read path) where
  clock _ _ _ h := h
  sleep _ _ _ _ h := h

/-! ### Reading -/

lemma not_isPatch_get {request : Request} (h : request.action = .get) :
    ¬ IsPatch (.kubernetes request) := by
  rintro ⟨_, kind, body, hcall, haction⟩
  cases hcall
  rw [h] at haction
  cases haction

/-- Reading an object leaves it alone, and shows what is read from its document. -/
lemma ensures_get (hpath : IsPathText (collection ++ "/" ++ name)) :
    (get? read collection name).Ensures (keeping read (collection ++ "/" ++ name))
      (fun _ c => ¬ IsPatch c)
      (Returns (fun s outcome => s = document ∧
        ∀ a, outcome = .ok (some a) → read (.ofJson document) = some a) (· = document))
      document := by
  rcases send_cases .get collection name "" with
    hsend | ⟨request, hrequest, hsend⟩
  · rw [get?, hsend]
    exact ⟨rfl, by simp⟩
  rw [String.append_empty] at hrequest
  cases Request.eq_of_path hpath hrequest
  rw [get?, hsend]
  refine ⟨not_isPatch_get rfl, ?_⟩
  rintro (reply : Reply) s ⟨hs, hshown⟩
  have hsame : s = document := hs.elim id fun h => h.1
  simp only [Program.done_bind]
  cases houtcome : reply.outcome with
  | ok body =>
    refine ⟨hsame, ?_⟩
    intro a ha
    rw [Body.decode, hshown rfl rfl body houtcome] at ha
    split at ha
    next b hb =>
      cases ha
      exact hb
    · cases ha
  | error failure =>
    split
    next heq => cases heq
    all_goals exact ⟨hsame, by simp⟩

/-! ### Writing -/

variable {change : Json → Json} {body : Json} {part : String} {seen : Tree → Option β}

/-- A patch makes its change, whatever it answers, or fails without an effect. -/
lemma ensures_patch (hpath : IsPathText (collection ++ "/" ++ name ++ part))
    (hchange : ∀ d,
      patched path ⟨.patch .merge body, collection ++ "/" ++ name ++ part, some ""⟩ d = change d)
    (hd : ∃ n, d = change^[n] document) :
    (patch seen .merge collection name part "" body).Ensures (keeping read path)
      (fun _ _ => True)
      (Returns (fun s outcome => (∃ n, s = change^[n] document) ∧ Applied change outcome document s)
        fun s => ∃ n, s = change^[n] document) d := by
  obtain ⟨n, rfl⟩ := hd
  rcases send_cases (.patch .merge body) collection name (part ++ "?" ++ "") with
    hsend | ⟨request, hrequest, hsend⟩
  · rw [patch, hsend]
    exact ⟨⟨n, rfl⟩, n, rfl, by rintro ⟨⟩⟩
  rw [String.append_empty, ← String.append_assoc] at hrequest
  cases Request.eq_of_query hpath hrequest
  rw [patch, hsend]
  refine ⟨trivial, ?_⟩
  rintro (reply : Reply) s ⟨hs, -⟩
  simp only [Program.done_bind]
  rcases hs with rfl | ⟨rfl, hfailed⟩
  · have hnext : patched path ⟨.patch .merge body, collection ++ "/" ++ name ++ part, some ""⟩
        (change^[n] document) = change^[n + 1] document := by
      rw [hchange, Function.iterate_succ_apply']
    rw [hnext]
    cases reply.outcome <;> exact ⟨⟨n + 1, rfl⟩, n + 1, rfl, fun _ => Nat.succ_pos n⟩
  · cases houtcome : reply.outcome with
    | ok body => exact absurd houtcome (hfailed body)
    | error failure => exact ⟨⟨n, rfl⟩, n, rfl, by rintro ⟨⟩⟩

/-- A patch that is sent until it is granted, or given up, has been made if it was granted. -/
theorem ensures_persist_patch (hpath : IsPathText (collection ++ "/" ++ name ++ part))
    (hchange : ∀ d,
      patched path ⟨.patch .merge body, collection ++ "/" ++ name ++ part, some ""⟩ d = change d)
    {patience : Nat} :
    ((persist patience (patch seen .merge collection name part "" body)).bind fun outcome =>
        .done (outcome.map fun _ => ())).Ensures (keeping read path) (fun _ _ => True)
      (Returns (fun s outcome => Applied change outcome document s) fun _ => True) document := by
  rw [persist, Program.bind_eq, Program.bind_assoc, ensures_bind]
  refine (Retry.ensures_persist_of_isIdle (P := fun s => ∃ n, s = change^[n] document)
    (Q := fun s outcome => Applied change outcome document s) isIdle_keeping (fun _ _ => trivial)
    (fun _ _ _ => trivial) (fun d hd => ensures_patch hpath hchange hd) ⟨0, rfl⟩).mono
    (fun _ _ h => h) ?_
  rintro s (_ | outcome) h
  · trivial
  · obtain ⟨-, n, hs, hn⟩ := h
    refine ⟨n, hs, ?_⟩
    intro hok
    cases outcome with
    | ok a => exact hn rfl
    | error failure => cases hok

/-- Reading an object until that works leaves it alone. -/
theorem ensures_persist_get (hpath : IsPathText (collection ++ "/" ++ name)) {patience : Nat} :
    (persist patience (get? read collection name)).Ensures
      (keeping read (collection ++ "/" ++ name)) (fun _ c => ¬ IsPatch c)
      (Returns (fun s outcome => s = document ∧
        ∀ a, outcome = .ok (some a) → read (.ofJson document) = some a) (· = document))
      document := by
  rw [persist, Program.bind_eq, ensures_bind]
  refine (Retry.ensures_persist_of_isIdle (P := (· = document))
    (Q := fun _ outcome => ∀ a, outcome = .ok (some a) → read (.ofJson document) = some a)
    isIdle_keeping ?_ ?_ ?_ rfl).mono (fun _ _ h => h) ?_
  · rintro _ _ ⟨_, _, _, hcall, _⟩
    cases hcall
  · rintro _ _ _ ⟨_, _, _, hcall, _⟩
    cases hcall
  · rintro d hd
    subst hd
    exact ensures_get hpath
  rintro s (_ | outcome) h
  · exact h
  · obtain ⟨hs, hread⟩ := h
    refine ⟨hs, ?_⟩
    intro a ha
    cases outcome with
    | ok found => exact hread a (by simpa [asControlPlane, Except.mapError] using ha)
    | error failure => cases ha

end Keeping

end BucketOperator.Kubernetes
