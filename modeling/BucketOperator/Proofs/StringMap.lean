import BucketOperator.StringMap
import Mathlib.Data.List.Nodup
import Mathlib.Data.List.Perm.Basic

/-!
# Maps by their lookups

A map is known by what is found in it: its entries are the keys with what is found at them, each
key once, and maps in which the same is found are equal. What is found after entries were set one
after the other is the last of them.
-/

namespace BucketOperator.StringMap

variable {α : Type} {m n : StringMap α} {entries : List (String × α)} {key : String} {value : α}

lemma nodup_keys (m : StringMap α) : (m.toList.map Prod.fst).Nodup := by
  apply List.pairwise_map.2
  refine m.sorted.imp ?_
  intro a b h heq
  exact String.lt_irrefl _ (heq ▸ h)

lemma nodup_toList (m : StringMap α) : m.toList.Nodup := .of_map _ m.nodup_keys

/-- Where each key occurs once, what is found is what is listed. -/
lemma lookup_eq_some_of_nodup {l : List (String × α)} (h : (l.map Prod.fst).Nodup) :
    l.lookup key = some value ↔ (key, value) ∈ l := by
  induction l with
  | nil => simp
  | cons e rest ih =>
    obtain ⟨k, v⟩ := e
    obtain ⟨hk, hrest⟩ := List.nodup_cons.1 h
    by_cases heq : key = k
    · subst heq
      have hnotMem : (key, value) ∉ rest := fun hmem => hk (List.mem_map.2 ⟨_, hmem, rfl⟩)
      simp [hnotMem, eq_comm]
    · simp [List.lookup_cons, beq_eq_false_iff_ne.2 heq, heq, ih hrest]

/-- Where each key occurs once, entries may be looked up from either side. -/
lemma lookup_reverse_of_nodup {l : List (String × α)} (h : (l.map Prod.fst).Nodup) :
    l.reverse.lookup key = l.lookup key := by
  have hreverse : (l.reverse.map Prod.fst).Nodup := by
    rw [List.map_reverse]
    exact List.nodup_reverse.2 h
  ext value
  rw [lookup_eq_some_of_nodup hreverse, lookup_eq_some_of_nodup h, List.mem_reverse]

@[simp] lemma mem_toList_iff : (key, value) ∈ m.toList ↔ m.get? key = some value :=
  (lookup_eq_some_of_nodup m.nodup_keys).symm

/-- Maps in which the same is found are equal. -/
theorem ext_get? (h : ∀ key, m.get? key = n.get? key) : m = n := by
  apply ext_entries
  have hmem : ∀ e, e ∈ m.toList ↔ e ∈ n.toList := by
    rintro ⟨key, value⟩
    rw [mem_toList_iff, mem_toList_iff, h key]
  apply List.Perm.eq_of_pairwise _ m.sorted n.sorted
  · exact (List.perm_ext_iff_of_nodup m.nodup_toList n.nodup_toList).2 hmem
  · intro a b _ _ hab hba
    exact absurd hba (String.lt_asymm hab)

/-- Of the entries that are set, the last one of a key is found. -/
@[simp] lemma get?_insertAll :
    (m.insertAll entries).get? key = (entries.reverse.lookup key).or (m.get? key) := by
  induction entries generalizing m with
  | nil => simp [insertAll]
  | cons e rest ih =>
    obtain ⟨k, v⟩ := e
    change ((m.insert k v).insertAll rest).get? key = _
    rw [ih, List.reverse_cons, List.lookup_append, Option.or_assoc, get?_insert]
    by_cases hk : key = k
    · simp [hk]
    · simp [List.lookup_cons, beq_eq_false_iff_ne.2 hk, hk]

/-- Of sorted entries, the last one is the one whose key comes last. -/
lemma getLast?_eq_some_iff_of_sorted {l : List (String × α)} {e : String × α}
    (h : l.Pairwise fun a b => a.1 < b.1) :
    l.getLast? = some e ↔ e ∈ l ∧ ∀ a ∈ l, ¬ e.1 < a.1 := by
  constructor
  · intro hlast
    obtain ⟨before, rfl⟩ := List.getLast?_eq_some_iff.1 hlast
    refine ⟨List.mem_append_right _ (List.mem_singleton_self e), ?_⟩
    intro a ha
    rcases List.mem_append.1 ha with ha | ha
    · exact String.lt_asymm ((List.pairwise_append.1 h).2.2 a ha e (List.mem_singleton_self e))
    · rw [List.mem_singleton.1 ha]
      exact String.lt_irrefl _
  · rintro ⟨hmem, hlast⟩
    obtain ⟨before, after, rfl⟩ := List.append_of_mem hmem
    cases after with
    | nil => exact List.getLast?_concat
    | cons a rest =>
      have hlt := (List.pairwise_cons.1 (List.pairwise_append.1 h).2.1).1 a List.mem_cons_self
      exact absurd hlt (hlast a (by simp))

/-- The entries of a map, set one after the other, overlay what was there. -/
lemma get?_insertAll_toList : (m.insertAll n.toList).get? key = (n.get? key).or (m.get? key) := by
  rw [get?_insertAll, lookup_reverse_of_nodup n.nodup_keys]
  rfl

lemma get?_filter (keep : String → α → Bool) :
    (m.filter keep).get? key = (m.get? key).filter (keep key) := by
  ext value
  rw [← mem_toList_iff, Option.filter_eq_some_iff, ← mem_toList_iff]
  exact List.mem_filter

lemma lookup_eq_head?_filter {l : List (String × α)} :
    l.lookup key = ((l.filter fun e => e.1 = key).head?).map Prod.snd := by
  induction l with
  | nil => rfl
  | cons e rest ih =>
    obtain ⟨k, v⟩ := e
    by_cases hk : k = key
    · simp [hk]
    · rw [List.lookup_cons, beq_eq_false_iff_ne.2 (Ne.symm hk), ih]
      simp [hk]

/-- Of the listed entries, the last one of a key is found. -/
lemma get?_ofList :
    (ofList entries).get? key = ((entries.filter fun e => e.1 = key).getLast?).map Prod.snd := by
  rw [ofList, get?_insertAll, lookup_eq_head?_filter, List.filter_reverse, List.head?_reverse,
    get?_empty, Option.or_none]

end BucketOperator.StringMap
