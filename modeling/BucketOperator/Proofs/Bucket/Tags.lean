import BucketOperator.Bucket.Record
import BucketOperator.Proofs.StringMap

/-!
# Tags of a bucket

The resources of a bucket carry the tags of its cluster overlaid with those of its record. Of the
tags of a record that have one key, the last one with a value counts. Empty keys and empty values
count nowhere, so that an empty value neither erases another one nor falls back to the cluster's.
-/

namespace BucketOperator

/-- The value that tags give to a key: the last one that is not empty. -/
def lastValue? (tags : List BucketTag) (key : String) : Option String :=
  ((tags.filter fun t => t.key = key ∧ t.value ≠ "").getLast?).map BucketTag.value

/-- The value of a tag of a bucket: what its record says, else what its cluster says. -/
def tagValue? (clusterTags : StringMap String) (spec : BucketSpec) (key : String) :
    Option String :=
  if key = "" then none
  else (lastValue? spec.tags key).or ((clusterTags.get? key).filter (· ≠ ""))

variable {clusterTags : StringMap String} {spec : BucketSpec} {key : String}

lemma BucketSpec.get?_normalizedTags (spec : BucketSpec) (key : String) :
    spec.normalizedTags.get? key = if key = "" then none else lastValue? spec.tags key := by
  rw [normalizedTags, StringMap.get?_ofList, List.filter_map, List.filter_filter,
    List.getLast?_map, Option.map_map]
  split
  case isTrue h =>
    subst h
    rw [List.filter_eq_nil_iff.2]
    · rfl
    · intro t _
      simp +contextual
  case isFalse h =>
    have hfilter : (spec.tags.filter fun t =>
        decide (t.key = key) && (t.key ≠ "" && t.value ≠ "")) =
        spec.tags.filter fun t => t.key = key ∧ t.value ≠ "" := by
      apply List.filter_congr
      intro t _
      by_cases hkey : t.key = key
      · simp [hkey, h]
      · simp [hkey]
    rw [lastValue?, ← hfilter]
    rfl

/-- A tag of a record comes before one of its cluster. -/
lemma get?_mergeTags : (mergeTags clusterTags spec).get? key =
    (spec.normalizedTags.get? key).or
      ((clusterTags.get? key).filter fun value => key ≠ "" && value ≠ "") := by
  rw [mergeTags, StringMap.get?_insertAll_toList, StringMap.get?_filter]

/-- What is found in the tags of a bucket. -/
lemma get?_mergeTags_eq_tagValue? :
    (mergeTags clusterTags spec).get? key = tagValue? clusterTags spec key := by
  rw [get?_mergeTags, spec.get?_normalizedTags, tagValue?]
  split
  case isTrue h => simp [h]
  case isFalse h => simp [h]

/-- Tags that were merged already stay as they are. -/
lemma mergeTags_mergeTags :
    mergeTags (mergeTags clusterTags spec) spec = mergeTags clusterTags spec := by
  apply StringMap.ext_get?
  intro key
  rw [get?_mergeTags_eq_tagValue?, tagValue?, get?_mergeTags_eq_tagValue?, tagValue?]
  split
  case isTrue => rfl
  case isFalse =>
    cases lastValue? spec.tags key with
    | some value => rfl
    | none => simp

end BucketOperator
