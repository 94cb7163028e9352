import BucketOperator.Kubernetes.Finalizers
import Mathlib.Data.List.Perm.Basic

/-!
# Lists of finalizers

A finalizer is appended to a list that lacks it, and all its occurrences are dropped from a list
that has it. Neither touches the other entries. So these are the same after any number of edits,
and whether the finalizer is there is up to the last one.
-/

namespace BucketOperator.Kubernetes

/-- The entries of a list besides a finalizer. -/
def others (f : String) (l : List String) : List String := l.filter (· != f)

/-- A list without a finalizer: the other entries are there in the same order, each as often as
before. -/
structure Drops (f : String) (l l' : List String) : Prop where
  absent : f ∉ l'
  inOrder : l'.Sublist l
  asOften : ∀ g, g ≠ f → l'.count g = l.count g

section Edits

variable {f : String} {l l' : List String}

lemma notMem_others : f ∉ others f l := by simp [others]

lemma others_eq_self (h : f ∉ l) : others f l = l := by
  apply List.filter_eq_self.2
  intro g hg
  exact bne_iff_ne.2 fun heq => h (heq ▸ hg)

lemma others_append (l l' : List String) : others f (l ++ l') = others f l ++ others f l' :=
  List.filter_append l l'

lemma others_idem : others f (others f l) = others f l := others_eq_self notMem_others

lemma count_others {g : String} (h : g ≠ f) : (others f l).count g = l.count g :=
  List.count_filter (bne_iff_ne.2 h)

/-- There is one such list. -/
lemma drops_iff : Drops f l l' ↔ l' = others f l := by
  constructor
  · intro h
    have hsublist : l'.Sublist (others f l) := by
      rw [← others_eq_self h.absent]
      exact h.inOrder.filter _
    have hperm : l'.Perm (others f l) := by
      rw [List.perm_iff_count]
      intro g
      by_cases hg : g = f
      · rw [hg, List.count_eq_zero.2 h.absent, List.count_eq_zero.2 notMem_others]
      · rw [h.asOften g hg, count_others hg]
    exact hsublist.eq_of_length hperm.length_eq
  · rintro rfl
    exact ⟨notMem_others, List.filter_sublist, fun g hg => count_others hg⟩

lemma withFinalizer?_eq_none_iff : withFinalizer? l f = none ↔ f ∈ l := by
  simp [withFinalizer?]

lemma withFinalizer?_eq_some_iff : withFinalizer? l f = some l' ↔ f ∉ l ∧ l' = l ++ [f] := by
  simp [withFinalizer?, eq_comm]

lemma withoutFinalizer?_eq_none_iff : withoutFinalizer? l f = none ↔ f ∉ l := by
  simp [withoutFinalizer?]

lemma withoutFinalizer?_eq_some_iff :
    withoutFinalizer? l f = some l' ↔ f ∈ l ∧ Drops f l l' := by
  rw [drops_iff]
  simp [withoutFinalizer?, others, eq_comm]

/-- A finalizer that was just added can be taken back. -/
lemma withoutFinalizer?_append (h : f ∉ l) : withoutFinalizer? (l ++ [f]) f = some l := by
  rw [withoutFinalizer?_eq_some_iff, drops_iff, others_append, others_eq_self h]
  simp [others]

end Edits

/-! ### Edits one after the other -/

/-- What may be done about a finalizer. -/
inductive FinalizerEdit where
  | add
  | remove
  deriving DecidableEq

/-- The list after an edit; where there is nothing to be done it stays. -/
def FinalizerEdit.apply (f : String) (l : List String) : FinalizerEdit → List String
  | .add => (withFinalizer? l f).getD l
  | .remove => (withoutFinalizer? l f).getD l

section Runs

variable {f : String} {l : List String}

lemma others_apply (edit : FinalizerEdit) : others f (edit.apply f l) = others f l := by
  cases edit with
  | add =>
    cases h : withFinalizer? l f with
    | none => rw [FinalizerEdit.apply, h, Option.getD_none]
    | some l' =>
      obtain ⟨-, rfl⟩ := withFinalizer?_eq_some_iff.1 h
      rw [FinalizerEdit.apply, h, Option.getD_some, others_append]
      simp [others]
  | remove =>
    cases h : withoutFinalizer? l f with
    | none => rw [FinalizerEdit.apply, h, Option.getD_none]
    | some l' =>
      rw [FinalizerEdit.apply, h, Option.getD_some,
        drops_iff.1 (withoutFinalizer?_eq_some_iff.1 h).2, others_idem]

lemma mem_apply_iff {edit : FinalizerEdit} : f ∈ edit.apply f l ↔ edit = .add := by
  cases edit with
  | add =>
    cases h : withFinalizer? l f with
    | none => simpa [FinalizerEdit.apply, h] using withFinalizer?_eq_none_iff.1 h
    | some l' =>
      obtain ⟨-, rfl⟩ := withFinalizer?_eq_some_iff.1 h
      simp [FinalizerEdit.apply, h]
  | remove =>
    cases h : withoutFinalizer? l f with
    | none => simpa [FinalizerEdit.apply, h] using withoutFinalizer?_eq_none_iff.1 h
    | some l' => simpa [FinalizerEdit.apply, h] using (withoutFinalizer?_eq_some_iff.1 h).2.absent

lemma others_foldl (edits : List FinalizerEdit) :
    others f (edits.foldl (FinalizerEdit.apply f) l) = others f l := by
  induction edits generalizing l with
  | nil => rfl
  | cons edit edits ih => rw [List.foldl_cons, ih, others_apply]

/-- The last edit decides, and without edits the list is as it was. -/
lemma mem_foldl_iff (edits : List FinalizerEdit) :
    f ∈ edits.foldl (FinalizerEdit.apply f) l ↔
      edits.getLast? = some .add ∨ edits = [] ∧ f ∈ l := by
  rcases List.eq_nil_or_concat edits with rfl | ⟨edits, edit, rfl⟩
  · simp
  · simp [List.foldl_append, mem_apply_iff]

end Runs

/-- A finalizer can be added exactly where it is absent, which can be undone, and removed exactly
where it is present, which leaves the rest of the list. Any number of edits leave the rest, and the
finalizer is there in the end if the last one added it. -/
theorem finalizer_edits_obey (l : List String) (f : String) :
    (withFinalizer? l f = none ↔ f ∈ l) ∧
    (f ∉ l ↔ ∃ l', withFinalizer? l f = some l' ∧ withoutFinalizer? l' f = some l) ∧
    (withoutFinalizer? l f = none ↔ f ∉ l) ∧
    (f ∈ l ↔ ∃ l', withoutFinalizer? l f = some l' ∧ Drops f l l') ∧
    ∀ edits : List FinalizerEdit,
      others f (edits.foldl (FinalizerEdit.apply f) l) = others f l ∧
      (f ∈ edits.foldl (FinalizerEdit.apply f) l ↔
        edits.getLast? = some .add ∨ edits = [] ∧ f ∈ l) := by
  refine ⟨withFinalizer?_eq_none_iff, ?_, withoutFinalizer?_eq_none_iff, ?_, ?_⟩
  · constructor
    · intro h
      exact ⟨l ++ [f], withFinalizer?_eq_some_iff.2 ⟨h, rfl⟩, withoutFinalizer?_append h⟩
    · rintro ⟨l', h, -⟩
      exact (withFinalizer?_eq_some_iff.1 h).1
  · constructor
    · intro h
      have hdrops : Drops f l (others f l) := drops_iff.2 rfl
      exact ⟨_, withoutFinalizer?_eq_some_iff.2 ⟨h, hdrops⟩, hdrops⟩
    · rintro ⟨l', h, -⟩
      exact (withoutFinalizer?_eq_some_iff.1 h).1
  · exact fun edits => ⟨others_foldl edits, mem_foldl_iff edits⟩

end BucketOperator.Kubernetes
