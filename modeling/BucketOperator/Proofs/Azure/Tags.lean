import BucketOperator.Azure.Naming
import BucketOperator.Proofs.Bucket.Tags

/-!
# Tags of a bucket on Azure

Container metadata has no hyphens in its keys, so that different tags may get one key. The tags of
a record come before those of its cluster as long as their keys are the same from the start. Among
keys that only become the same, the one that comes last in order counts, whoever it belongs to.
-/

namespace BucketOperator.Azure

/-! ### Keys that become the same -/

/-- A key as container metadata has it, with underscores in place of hyphens. -/
def underscored (key : String) : String :=
  String.ofList (key.toList.map fun c => if c = '-' then '_' else c)

variable {m clusterTags : StringMap String} {spec : BucketSpec} {key value : String}

lemma ne_empty_of_alike {l : String} (hkey : key ≠ "") (h : underscored l = underscored key) :
    l ≠ "" := by
  rintro rfl
  have hempty := congrArg String.toList h
  rw [underscored, underscored, String.toList_ofList, String.toList_ofList] at hempty
  exact hkey (by simpa using hempty.symm)

lemma get?_metadataTags : (metadataTags m).get? key =
    ((m.toList.filter fun e => underscored e.1 = key).getLast?).map Prod.snd := by
  rw [metadataTags, StringMap.get?_ofList, List.filter_map, List.getLast?_map, Option.map_map]
  rfl

/-- Of the tags whose keys become one, the last one counts. -/
lemma get?_metadataTags_eq_some_iff : (metadataTags m).get? key = some value ↔
    ∃ k, m.get? k = some value ∧ underscored k = key ∧
      ∀ l w, m.get? l = some w → underscored l = key → ¬ k < l := by
  have hsorted := m.sorted.filter fun e => underscored e.1 = key
  rw [get?_metadataTags, Option.map_eq_some_iff]
  constructor
  · rintro ⟨⟨k, v⟩, hlast, rfl⟩
    obtain ⟨hmem, hlast⟩ := (StringMap.getLast?_eq_some_iff_of_sorted hsorted).1 hlast
    obtain ⟨hmem, hkey⟩ := List.mem_filter.1 hmem
    refine ⟨k, StringMap.mem_toList_iff.1 hmem, of_decide_eq_true hkey, ?_⟩
    intro l w hl hlkey
    exact hlast (l, w) (List.mem_filter.2 ⟨StringMap.mem_toList_iff.2 hl, decide_eq_true hlkey⟩)
  · rintro ⟨k, hk, hkey, hlast⟩
    refine ⟨(k, value), (StringMap.getLast?_eq_some_iff_of_sorted hsorted).2 ⟨?_, ?_⟩, rfl⟩
    · exact List.mem_filter.2 ⟨StringMap.mem_toList_iff.2 hk, decide_eq_true hkey⟩
    · rintro ⟨l, w⟩ hl
      obtain ⟨hl, hlkey⟩ := List.mem_filter.1 hl
      exact hlast l w (StringMap.mem_toList_iff.1 hl) (of_decide_eq_true hlkey)

/-- No key gets lost altogether. -/
lemma exists_get?_metadataTags (h : m.get? key = some value) :
    ∃ other, (metadataTags m).get? (underscored key) = some other := by
  rw [get?_metadataTags]
  cases hlast : (m.toList.filter fun e => underscored e.1 = underscored key).getLast? with
  | some e => exact ⟨e.2, rfl⟩
  | none =>
    have hmem : (key, value) ∈ m.toList.filter fun e => underscored e.1 = underscored key :=
      List.mem_filter.2 ⟨StringMap.mem_toList_iff.2 h, decide_eq_true rfl⟩
    rw [List.getLast?_eq_none_iff.1 hlast] at hmem
    cases hmem

/-! ### Precedence -/

/-- No two tags of a record get the same key. -/
def IsDistinct (spec : BucketSpec) : Prop :=
  ∀ k l v w, spec.normalizedTags.get? k = some v → spec.normalizedTags.get? l = some w →
    underscored k = underscored l → k = l

/-- A tag of the cluster takes the place of a tag of a record: it gets the same key but comes after
it, later than all others of the cluster that get this key, and has another value. -/
structure Displaces (clusterTags : StringMap String) (key value later other : String) : Prop where
  found : clusterTags.get? later = some other
  filled : other ≠ ""
  alike : underscored later = underscored key
  after : key < later
  last : ∀ l w, clusterTags.get? l = some w → w ≠ "" → underscored l = underscored key →
    ¬ later < l
  differs : other ≠ value

section Precedence

variable {l w later other : String}

lemma key_ne_empty (hfound : spec.normalizedTags.get? key = some value) : key ≠ "" := by
  rintro rfl
  rw [spec.get?_normalizedTags, if_pos rfl] at hfound
  cases hfound

variable (hdistinct : IsDistinct spec) (hfound : spec.normalizedTags.get? key = some value)

include hdistinct hfound

/-- Beside a record's tag, only tags of the cluster get its key. -/
lemma eq_or_found_of_alike (hl : (mergeTags clusterTags spec).get? l = some w)
    (halike : underscored l = underscored key) :
    l = key ∧ w = value ∨ clusterTags.get? l = some w ∧ w ≠ "" := by
  rw [get?_mergeTags] at hl
  cases hown : spec.normalizedTags.get? l with
  | some u =>
    obtain rfl := hdistinct l key u value hown hfound halike
    rw [hfound, Option.some_or] at hl
    exact .inl ⟨rfl, (Option.some.inj hl).symm⟩
  | none =>
    rw [hown, Option.none_or, Option.filter_eq_some_iff, Bool.and_eq_true, decide_eq_true_eq,
      decide_eq_true_eq] at hl
    exact .inr ⟨hl.1, hl.2.2⟩

lemma get?_mergeTags_of_alike (hl : clusterTags.get? l = some w) (hw : w ≠ "")
    (halike : underscored l = underscored key) (hne : l ≠ key) :
    (mergeTags clusterTags spec).get? l = some w := by
  have hown : spec.normalizedTags.get? l = none := by
    rw [Option.eq_none_iff_forall_ne_some]
    intro u hu
    exact hne (hdistinct l key u value hu hfound halike)
  rw [get?_mergeTags, hown, Option.none_or, hl, Option.filter_some, if_pos]
  simp [hw, ne_empty_of_alike (key_ne_empty hfound) halike]

/-- What displaces a record's tag is what its key gets. -/
lemma get?_of_displaces (h : Displaces clusterTags key value later other) :
    (metadataTags (mergeTags clusterTags spec)).get? (underscored key) = some other := by
  have hne : later ≠ key := by
    rintro rfl
    exact String.lt_irrefl _ h.after
  have hlater := get?_mergeTags_of_alike hdistinct hfound h.found h.filled h.alike hne
  refine get?_metadataTags_eq_some_iff.2 ⟨later, hlater, h.alike, ?_⟩
  intro l w hl halike
  rcases eq_or_found_of_alike hdistinct hfound hl halike with ⟨rfl, -⟩ | ⟨hl, hw⟩
  · exact String.lt_asymm h.after
  · exact h.last l w hl hw halike

/-- A record's tag that is not displaced is kept. -/
lemma get?_or_displaces :
    (metadataTags (mergeTags clusterTags spec)).get? (underscored key) = some value ∨
      ∃ later other, Displaces clusterTags key value later other := by
  have hmerged : (mergeTags clusterTags spec).get? key = some value := by
    rw [get?_mergeTags, hfound, Option.some_or]
  obtain ⟨other, hother⟩ := exists_get?_metadataTags hmerged
  by_cases hvalue : other = value
  · exact .inl (hvalue ▸ hother)
  -- the tag that its key gets has another value, so it is one of the cluster
  obtain ⟨later, hlater, halike, hlast⟩ := get?_metadataTags_eq_some_iff.1 hother
  rcases eq_or_found_of_alike hdistinct hfound hlater halike with ⟨-, heq⟩ | ⟨hcluster, hfilled⟩
  · exact absurd heq hvalue
  have hne : key ≠ later := by
    rintro rfl
    exact hvalue (Option.some.inj (hlater.symm.trans hmerged))
  refine .inr ⟨later, other, hcluster, hfilled, halike, ?_, ?_, hvalue⟩
  · exact Std.lt_of_le_of_ne (Std.not_lt.1 (hlast key value hmerged rfl)) hne
  · intro l w hl hw hlalike
    by_cases heq : l = key
    · subst heq
      exact hlast l value hmerged rfl
    · exact hlast l w (get?_mergeTags_of_alike hdistinct hfound hl hw hlalike heq) hlalike

end Precedence

/-- A tag of a record whose tags get different keys is kept exactly if no tag of the cluster
displaces it. If one does, the key gets the value of that one. -/
theorem record_tag_kept_iff (clusterTags : StringMap String) (spec : BucketSpec)
    (hdistinct : IsDistinct spec) (key value : String)
    (hfound : spec.normalizedTags.get? key = some value) :
    ((metadataTags (mergeTags clusterTags spec)).get? (underscored key) = some value ↔
      ¬ ∃ later other, Displaces clusterTags key value later other) ∧
    ∀ later other, Displaces clusterTags key value later other →
      (metadataTags (mergeTags clusterTags spec)).get? (underscored key) = some other := by
  refine ⟨⟨?_, ?_⟩, fun _ _ => get?_of_displaces hdistinct hfound⟩
  · rintro hkept ⟨later, other, h⟩
    rw [get?_of_displaces hdistinct hfound h] at hkept
    exact h.differs (Option.some.inj hkept)
  · exact (get?_or_displaces hdistinct hfound).resolve_right

/-! ### A tag of each kind -/

/-- A record with one tag. -/
def tagged (key value : String) : BucketSpec where
  name := "giantswarm-glippy-loki"
  expirationDays := none
  reclaimPolicy := .retain
  accessRole := none
  tags := [⟨key, value⟩]

lemma isDistinct_tagged {key value : String} (hkey : key ≠ "") (hvalue : value ≠ "") :
    IsDistinct (tagged key value) := by
  have htags : (tagged key value).normalizedTags = StringMap.empty.insert key value := by
    simp [BucketSpec.normalizedTags, tagged, hkey, hvalue, StringMap.ofList, StringMap.insertAll]
  intro k l v w hk hl _
  rw [htags, StringMap.get?_insert, StringMap.get?_empty, Option.ite_none_right_eq_some] at hk hl
  rw [hk.1, hl.1]

/-- An underscore comes after a hyphen, so a tag that has it is kept. -/
theorem underscored_tag_kept :
    IsDistinct (tagged "a_b" "under") ∧
    (tagged "a_b" "under").normalizedTags.get? "a_b" = some "under" ∧
    (metadataTags (mergeTags (.ofList [("a-b", "dash")]) (tagged "a_b" "under"))).get? "a_b" =
      some "under" := by
  have hdistinct : IsDistinct (tagged "a_b" "under") := isDistinct_tagged (by decide) (by decide)
  have hfound : (tagged "a_b" "under").normalizedTags.get? "a_b" = some "under" := by decide
  refine ⟨hdistinct, hfound,
    (record_tag_kept_iff (.ofList [("a-b", "dash")]) _ hdistinct _ _ hfound).1.2 ?_⟩
  rintro ⟨later, other, h⟩
  have hlater : "a-b" = later := by
    have hmem := StringMap.mem_toList_iff.2 h.found
    exact (congrArg Prod.fst (List.mem_singleton.1 hmem)).symm
  subst hlater
  exact absurd h.after (by decide)

/-- A hyphen comes before an underscore, so a tag that has it gives way to one of the cluster. -/
theorem hyphenated_tag_displaced :
    ¬ ∀ (clusterTags : StringMap String) (spec : BucketSpec), IsDistinct spec →
      ∀ key value, spec.normalizedTags.get? key = some value →
        (metadataTags (mergeTags clusterTags spec)).get? (underscored key) = some value := by
  intro h
  have hdistinct : IsDistinct (tagged "a-b" "dash") := isDistinct_tagged (by decide) (by decide)
  have hkept := h (.ofList [("a_b", "under")]) _ hdistinct "a-b" "dash" (by decide)
  exact absurd hkept (by decide)

end BucketOperator.Azure
