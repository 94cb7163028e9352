import BucketOperator.Aws.AccessRole
import BucketOperator.Proofs.Bucket.Tags

/-!
# Tags as lists

AWS takes and gives tags as lists. A list shows a map of tags when each key stands in it once, with
its value, in whatever order. The tags of a bucket are listed in key order, and a role has them
exactly if its tags are that list in some order.
-/

namespace BucketOperator.Aws

/-- Tags as entries of a map. -/
def entriesOf (tags : List Tag) : List (String × String) := tags.map fun t => (t.key, t.value)

/-- Whether a list of tags shows a map, each key once and in any order. -/
structure Lists (tags : List Tag) (m : StringMap String) : Prop where
  nodup : (tags.map (·.key)).Nodup
  mem_iff : ∀ key value, ⟨key, value⟩ ∈ tags ↔ m.get? key = some value

section Lists

variable {tags : List Tag} {m n : StringMap String}

lemma mem_entriesOf {key value : String} : (key, value) ∈ entriesOf tags ↔ ⟨key, value⟩ ∈ tags := by
  simp only [entriesOf, List.mem_map, Prod.mk.injEq]
  constructor
  · rintro ⟨⟨key, value⟩, hmem, rfl, rfl⟩
    exact hmem
  · intro hmem
    exact ⟨_, hmem, rfl, rfl⟩

lemma map_fst_entriesOf : (entriesOf tags).map Prod.fst = tags.map (·.key) := by
  simp [entriesOf]

lemma entriesOf_tagList : entriesOf (Storage.tagList m) = m.toList := by
  simp [entriesOf, Storage.tagList, Function.comp_def]

/-- The tags of a map are listed in key order. -/
lemma tagList_sorted (m : StringMap String) :
    ((Storage.tagList m).map (·.key)).Pairwise (· < ·) := by
  rw [← map_fst_entriesOf, entriesOf_tagList]
  exact List.pairwise_map.2 m.sorted

/-- A map is shown by its own list. -/
theorem lists_tagList (m : StringMap String) : Lists (Storage.tagList m) m := by
  constructor
  · rw [← map_fst_entriesOf, entriesOf_tagList]
    exact m.nodup_keys
  · intro key value
    rw [← mem_entriesOf, entriesOf_tagList, StringMap.mem_toList_iff]

/-- Where each key stands once, what is found is what is listed. -/
lemma lookup_entriesOf (h : (tags.map (·.key)).Nodup) {key value : String} :
    (entriesOf tags).reverse.lookup key = some value ↔ ⟨key, value⟩ ∈ tags := by
  rw [← map_fst_entriesOf] at h
  rw [StringMap.lookup_reverse_of_nodup h, StringMap.lookup_eq_some_of_nodup h, mem_entriesOf]

/-- Where each key stands once, the map is shown that the list is read as. -/
lemma lists_ofList (h : (tags.map (·.key)).Nodup) : Lists tags (.ofList (entriesOf tags)) := by
  refine ⟨h, ?_⟩
  intro key value
  rw [StringMap.ofList, StringMap.get?_insertAll, StringMap.get?_empty, Option.or_none,
    lookup_entriesOf h]

/-- A map is shown by the lists that have its tags in some order. -/
lemma lists_iff_perm : Lists tags m ↔ tags.Perm (Storage.tagList m) := by
  have hlisted := lists_tagList m
  constructor
  · intro h
    rw [List.perm_ext_iff_of_nodup (.of_map _ h.nodup) (.of_map _ hlisted.nodup)]
    rintro ⟨key, value⟩
    rw [h.mem_iff, hlisted.mem_iff]
  · intro h
    refine ⟨(h.map _).nodup_iff.2 hlisted.nodup, ?_⟩
    intro key value
    rw [h.mem_iff, hlisted.mem_iff]

/-- Setting listed tags overlays the map they show. -/
lemma Lists.get?_insertAll (h : Lists tags m) (key : String) :
    (n.insertAll (entriesOf tags)).get? key = (m.get? key).or (n.get? key) := by
  rw [StringMap.get?_insertAll]
  congr 1
  ext value
  rw [lookup_entriesOf h.nodup, h.mem_iff]

/-- The map that listed tags are read as. -/
theorem Lists.ofList_eq (h : Lists tags m) : StringMap.ofList (entriesOf tags) = m := by
  apply StringMap.ext_get?
  intro key
  rw [StringMap.ofList, h.get?_insertAll]
  simp

lemma Lists.eq_empty (h : Lists [] m) : m = .empty := h.ofList_eq.symm

/-- Listed tags differ from the wanted ones exactly if the map they show does. -/
theorem Lists.tagsDiffer_iff (h : Lists tags m) :
    AccessRole.tagsDiffer tags n = true ↔ m ≠ n := by
  change decide (StringMap.ofList (entriesOf tags) ≠ n) = true ↔ _
  rw [h.ofList_eq, decide_eq_true_eq]

/-- A list has the tags of a map in some order exactly if each key stands in it once and it does
not differ from the map. -/
lemma perm_tagList_iff : tags.Perm (Storage.tagList m) ↔
    (tags.map (·.key)).Nodup ∧ AccessRole.tagsDiffer tags m = false := by
  rw [← lists_iff_perm]
  constructor
  · intro h
    refine ⟨h.nodup, ?_⟩
    rw [← Bool.not_eq_true, h.tagsDiffer_iff]
    exact fun hne => hne rfl
  · rintro ⟨hnodup, hsame⟩
    have hlists := lists_ofList hnodup
    rw [← Bool.not_eq_true, hlists.tagsDiffer_iff, not_not] at hsame
    exact hsame ▸ hlists

lemma Lists.mem_keys_iff (h : Lists tags m) {key : String} :
    key ∈ tags.map (·.key) ↔ (m.get? key).isSome = true := by
  rw [Option.isSome_iff_exists, List.mem_map]
  constructor
  · rintro ⟨⟨key, value⟩, hmem, rfl⟩
    exact ⟨value, (h.mem_iff _ _).1 hmem⟩
  · rintro ⟨value, hvalue⟩
    exact ⟨_, (h.mem_iff _ _).2 hvalue, rfl⟩

/-- Without the keys that are listed, nothing is left. -/
theorem Lists.filter_eq_empty (h : Lists tags m) :
    (m.filter fun key _ => !(tags.map (·.key)).contains key) = .empty := by
  apply StringMap.ext_get?
  intro key
  rw [StringMap.get?_filter_key m fun key => !(tags.map (·.key)).contains key]
  by_cases hkey : key ∈ tags.map (·.key)
  · simp [hkey]
  · have hnone : m.get? key = none := by
      rw [← Option.not_isSome_iff_eq_none, ← h.mem_keys_iff]
      exact hkey
    simp [hnone]

end Lists

/-- The tags of a bucket are what its record says of them, else what its cluster says, and merging
them once more changes nothing. They are listed in key order, each once. A list of tags is that list
in some order exactly if each key stands in it once and it does not differ from the tags. -/
theorem merged_tags_listed (clusterTags : StringMap String) (spec : BucketSpec) :
    (∀ key, (mergeTags clusterTags spec).get? key = tagValue? clusterTags spec key) ∧
    mergeTags (mergeTags clusterTags spec) spec = mergeTags clusterTags spec ∧
    ((Storage.tagList (mergeTags clusterTags spec)).map (·.key)).Pairwise (· < ·) ∧
    (∀ key value, ⟨key, value⟩ ∈ Storage.tagList (mergeTags clusterTags spec) ↔
      (mergeTags clusterTags spec).get? key = some value) ∧
    ∀ tags, tags.Perm (Storage.tagList (mergeTags clusterTags spec)) ↔
      (tags.map (·.key)).Nodup ∧
        AccessRole.tagsDiffer tags (mergeTags clusterTags spec) = false := by
  refine ⟨fun key => get?_mergeTags_eq_tagValue?, mergeTags_mergeTags, tagList_sorted _, ?_, ?_⟩
  · exact (lists_tagList (mergeTags clusterTags spec)).mem_iff
  · exact fun tags => perm_tagList_iff

end BucketOperator.Aws
