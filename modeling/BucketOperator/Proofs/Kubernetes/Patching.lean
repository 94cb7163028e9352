import BucketOperator.Kubernetes.Finalizers
import BucketOperator.Proofs.Json.Members

/-!
# Metadata of patched objects

Metadata is read off the members of an object one by one, so a patch of the finalizers leaves all
else in it as it was. What the patch names is the whole list: nothing of the old one is left.
-/

namespace BucketOperator.Kubernetes

open Json
open Json.Tree (readMember)

/-! ### Reading metadata -/

lemma exists_mapM_eq_some {α β : Type} {f : α → Option β} {l : List α} :
    (∃ bs, l.mapM f = some bs) ↔ ∀ a ∈ l, ∃ b, f a = some b := by
  induction l with
  | nil => simp
  | cons a rest ih =>
    simp only [List.mapM_cons, Option.bind_eq_bind, Option.bind_eq_some_iff, Option.pure_def,
      Option.some.injEq, List.forall_mem_cons, ← ih]
    constructor
    · rintro ⟨_, b, hb, bs, hbs, rfl⟩
      exact ⟨⟨b, hb⟩, bs, hbs⟩
    · rintro ⟨⟨b, hb⟩, bs, hbs⟩
      exact ⟨_, b, hb, bs, hbs, rfl⟩

namespace Metadata

/-- Metadata as it is read off members that are looked up by name. -/
structure IsReadFrom (look : String → Option Json) (m : Metadata) : Prop where
  maps : ∀ n ∈ ["annotations", "labels"],
    ∃ a, readMember (Tree.readMap Tree.readString) (look n) = some a
  integers : ∀ n ∈ ["deletionGracePeriodSeconds", "generation"],
    ∃ a, readMember Tree.readInt64 (look n) = some a
  texts : ∀ n ∈ ["resourceVersion", "selfLink", "uid"],
    ∃ a, readMember Tree.readString (look n) = some a
  created : ∃ a, readMember readTimestamp (look "creationTimestamp") = some a
  managed : ∃ a, readMember (Tree.readList readManagedFields) (look "managedFields") = some a
  owned : ∃ a, readMember (Tree.readList readOwner) (look "ownerReferences") = some a
  name : readMember Tree.readString (look "name") = some m.name
  generateName : readMember Tree.readString (look "generateName") = some m.generateName
  namespaceName : readMember Tree.readString (look "namespace") = some m.namespaceName
  finalizerList :
    readMember (Tree.readList Tree.readString) (look "finalizers") = some m.finalizerList
  deletionTimestamp :
    readMember readTimestamp (look "deletionTimestamp") = some m.deletionTimestamp

section Reading

variable {members : List (String × Json)} {look look₁ : String → Option Json} {m : Metadata}

lemma read_ofJson_iff (hsorted : members.Pairwise fun a b => a.1 < b.1) :
    Metadata.read (Tree.ofJson (.object members)) = some m ↔
      m.IsReadFrom (Json.object members).get? := by
  simp only [Metadata.read, Tree.openFields?_ofJson, Option.bind_eq_bind, Option.bind_some,
    Option.bind_eq_some_iff, exists_and_right, exists_mapM_eq_some, List.forall_mem_cons,
    List.not_mem_nil, false_implies, forall_const, and_true, Option.pure_def, Option.some.injEq]
  simp (disch := first | decide | assumption) only [Tree.optionalAll_fieldsOf]
  constructor
  · rintro ⟨hmaps, hintegers, htexts, hcreated, hmanaged, howned, name, hname, generateName,
      hgenerateName, namespaceName, hnamespaceName, finalizerList, hfinalizerList,
      deletionTimestamp, hdeletionTimestamp, rfl⟩
    exact ⟨by simpa using hmaps, by simpa using hintegers, by simpa using htexts, hcreated,
      hmanaged, howned, hname, hgenerateName, hnamespaceName, hfinalizerList, hdeletionTimestamp⟩
  · intro h
    exact ⟨by simpa using h.maps, by simpa using h.integers, by simpa using h.texts, h.created,
      h.managed, h.owned, _, h.name, _, h.generateName, _, h.namespaceName, _, h.finalizerList, _,
      h.deletionTimestamp, rfl⟩

lemma exists_object_of_read {value : Json} (h : Metadata.read (Tree.ofJson value) = some m) :
    ∃ members, value = .object members := by
  cases value with
  | object members => exact ⟨members, rfl⟩
  | _ => cases h

/-- Metadata whose finalizers have been replaced. -/
lemma IsReadFrom.refinalized {finalizers : List String} (h : m.IsReadFrom look)
    (hnew : look₁ "finalizers" = some (.strings finalizers))
    (hsame : ∀ n, n ≠ "finalizers" → look₁ n = look n) :
    { m with finalizerList := some finalizers }.IsReadFrom look₁ := by
  have hread : readMember (Tree.readList Tree.readString) (look₁ "finalizers") =
      some (some finalizers) := by
    rw [hnew]
    change (Tree.readList Tree.readString (Tree.ofJson (.strings finalizers))).map some = _
    rw [Tree.readList_readString_iff.2 rfl, Option.map_some]
  constructor
  · simpa [hsame] using h.maps
  · simpa [hsame] using h.integers
  · simpa [hsame] using h.texts
  · simpa [hsame] using h.created
  · simpa [hsame] using h.managed
  · simpa [hsame] using h.owned
  · simpa [hsame] using h.name
  · simpa [hsame] using h.generateName
  · simpa [hsame] using h.namespaceName
  · exact hread
  · simpa [hsame] using h.deletionTimestamp

end Reading

end Metadata

/-! ### Finalizers in documents -/

lemma filterMap_string? (texts : List String) :
    (texts.map Json.string).filterMap Json.string? = texts := by
  rw [List.filterMap_map]
  exact List.filterMap_some

/-- The finalizers that the document of an object lists. -/
def finalizersIn (document : Json) : List String :=
  (((document.path? ["metadata", "finalizers"]).bind Json.array?).getD []).filterMap Json.string?

section Documents

variable {document : Json} {finalizers : List String}

lemma mergePatch_finalizersPatch : document.mergePatch (finalizersPatch finalizers) =
    document.set "metadata"
      (((document.get? "metadata").getD .null).set "finalizers" (.strings finalizers)) := by
  have hflat : ∀ members, Json.strings finalizers ≠ .object members := by rintro _ ⟨⟩
  rw [finalizersPatch, mergePatch_singleton (by rintro ⟨⟩), mergePatch_singleton (by rintro ⟨⟩),
    mergePatch_of_flat hflat]

/-- A patch of the finalizers names the whole list. -/
@[simp] lemma finalizersIn_patched :
    finalizersIn (document.mergePatch (finalizersPatch finalizers)) = finalizers := by
  simpa [finalizersIn, mergePatch_finalizersPatch, path?, Json.strings, array?] using
    filterMap_string? finalizers

/-- Metadata names the finalizers of the document it was read from. -/
lemma finalizersIn_eq {metadata : Json} {m : Metadata} (h : m.IsReadFrom metadata.get?)
    (hdocument : document.get? "metadata" = some metadata) :
    finalizersIn document = m.finalizers := by
  have hlist := h.finalizerList
  simp only [finalizersIn, path?, hdocument, Option.bind_some, Metadata.finalizers]
  cases hnames : metadata.get? "finalizers" with
  | none =>
    rw [hnames] at hlist
    rw [← Option.some.inj hlist]
    rfl
  | some names =>
    rw [hnames, readMember] at hlist
    by_cases hnull : names = .null
    · subst hnull
      rw [← Option.some.inj hlist]
      rfl
    · rw [Tree.readOption_ofJson hnull, Option.map_eq_some_iff] at hlist
      obtain ⟨texts, htexts, hm⟩ := hlist
      rw [← hm, Tree.readList_readString_iff.1 htexts]
      exact filterMap_string? texts

end Documents

end BucketOperator.Kubernetes
