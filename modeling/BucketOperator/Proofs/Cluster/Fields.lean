import BucketOperator.Cluster.Record
import Mathlib.Data.List.Basic

/-!
# Fields of records

A step of resolving a cluster takes a field from a record, or fails to resolve the cluster. What it
takes is said by a relation between the record and the field, and the steps are put together along
with their relations.
-/

namespace BucketOperator.Cluster

/-- A text stands at a path of a record and is not empty. -/
def HasText (record : Json) (path : List String) (text : String) : Prop :=
  nestedString? record path = some text ∧ text ≠ ""

/-- A step of resolving a cluster succeeds with exactly what fits. If nothing fits, it says that
the cluster cannot be resolved. -/
structure Gives {α : Type} (cluster : String) (Q : α → Prop) (x : Except Failure α) : Prop where
  ok_iff : ∀ a, x = .ok a ↔ Q a
  of_error : ∀ failure, x = .error failure → ∃ reason, failure = .resolution cluster reason

/-- The map of strings at a path of a record, which is empty where there is nothing, or null. -/
inductive HasTags (record : Json) (path : List String) : StringMap String → Prop where
  | missing (h : record.path? path = none) : HasTags record path .empty
  | null (h : record.path? path = some .null) : HasTags record path .empty
  | strings (entries : List (String × String))
      (h : record.path? path = some (.object (entries.map fun e => (e.1, .string e.2)))) :
      HasTags record path (.ofList entries)

section Fields

variable {α β : Type} {Q : α → Prop} {cluster description reason : String} {record value : Json}
  {path : List String}

lemma gives_ok {a : α} (h : ∀ b, Q b ↔ b = a) : Gives cluster Q (.ok a) := by
  refine ⟨?_, nofun⟩
  intro b
  rw [h, Except.ok.injEq]
  exact eq_comm

lemma gives_error (h : ∀ a, ¬ Q a) : Gives cluster Q (.error (.resolution cluster reason)) := by
  constructor
  · exact fun a => ⟨nofun, fun ha => absurd ha (h a)⟩
  · rintro _ ⟨⟩
    exact ⟨reason, rfl⟩

lemma Gives.bind {R : α → β → Prop} {x : Except Failure α} {f : α → Except Failure β}
    (h : Gives cluster Q x) (hf : ∀ a, Q a → Gives cluster (R a) (f a)) :
    Gives cluster (fun b => ∃ a, Q a ∧ R a b) (x >>= f) := by
  cases x with
  | error failure =>
    obtain ⟨reason, rfl⟩ := h.of_error failure rfl
    apply gives_error
    rintro b ⟨a, ha, -⟩
    cases (h.ok_iff a).2 ha
  | ok a =>
    have ha : Q a := (h.ok_iff a).1 rfl
    refine ⟨?_, (hf a ha).of_error⟩
    intro b
    constructor
    · intro hb
      exact ⟨a, ha, ((hf a ha).ok_iff b).1 hb⟩
    · rintro ⟨a', ha', hb⟩
      cases (h.ok_iff a').2 ha'
      exact ((hf a ha).ok_iff b).2 hb

lemma Gives.congr {R : α → Prop} {x : Except Failure α} (h : Gives cluster Q x)
    (hR : ∀ a, Q a ↔ R a) : Gives cluster R x :=
  ⟨fun a => (h.ok_iff a).trans (hR a), h.of_error⟩

/-- Where a text is required, it has to be there and not to be empty. -/
lemma gives_text : Gives cluster (HasText record path)
    (match nestedString? record path with
      | some "" => .error (.resolution cluster reason)
      | some text => .ok text
      | none => .error (.resolution cluster reason)) := by
  split
  case h_1 htext =>
    apply gives_error
    rintro text ⟨htext', hne⟩
    exact hne (Option.some.inj (htext'.symm.trans htext))
  case h_2 text hne htext =>
    apply gives_ok
    intro text'
    constructor
    · rintro ⟨htext', -⟩
      exact Option.some.inj (htext'.symm.trans htext)
    · rintro rfl
      exact ⟨htext, hne⟩
  case h_3 hnone =>
    apply gives_error
    rintro text ⟨htext, -⟩
    cases htext.symm.trans hnone

lemma gives_requiredString :
    Gives cluster (HasText record path) (requiredString cluster description record path) :=
  gives_text

lemma stringEntries_eq_ok_iff {members : List (String × Json)}
    {entries : List (String × String)} :
    stringEntries members = .ok entries ↔ members = entries.map fun e => (e.1, .string e.2) := by
  induction members generalizing entries with
  | nil =>
    constructor
    · rintro ⟨⟩
      rfl
    · intro h
      rw [List.map_eq_nil_iff.1 h.symm]
      rfl
  | cons member rest ih =>
    obtain ⟨key, value⟩ := member
    constructor
    · intro h
      cases value with
      | string text =>
        rw [stringEntries] at h
        cases hrest : stringEntries rest with
        | error reason =>
          rw [hrest] at h
          cases h
        | ok others =>
          rw [hrest] at h
          cases h
          rw [ih.1 hrest]
          rfl
      | _ => cases h
    · intro h
      obtain ⟨e, others, rfl, he, hothers⟩ := List.map_eq_cons_iff.1 h.symm
      cases he
      rw [stringEntries, ih.2 hothers.symm]
      rfl

lemma stringMap_eq_ok_iff {tags : StringMap String} : stringMap value = .ok tags ↔
    ∃ entries : List (String × String),
      value = .object (entries.map fun e => (e.1, .string e.2)) ∧ tags = .ofList entries := by
  constructor
  · intro h
    cases value with
    | object members =>
      rw [stringMap] at h
      cases hentries : stringEntries members with
      | error reason =>
        rw [hentries] at h
        cases h
      | ok entries =>
        rw [hentries] at h
        cases h
        exact ⟨entries, congrArg _ (stringEntries_eq_ok_iff.1 hentries), rfl⟩
    | _ => cases h
  · rintro ⟨entries, rfl, rfl⟩
    rw [stringMap, stringEntries_eq_ok_iff.2 rfl]
    rfl

lemma hasTags_iff_of_empty {tags : StringMap String}
    (h : record.path? path = none ∨ record.path? path = some .null) :
    HasTags record path tags ↔ tags = .empty := by
  constructor
  · rintro (_ | _ | ⟨entries, hentries⟩)
    · rfl
    · rfl
    · rcases h with h | h <;> cases hentries.symm.trans h
  · rintro rfl
    exact h.elim .missing .null

lemma hasTags_iff_stringMap {tags : StringMap String} (h : record.path? path = some value)
    (hnull : value ≠ .null) : HasTags record path tags ↔ stringMap value = .ok tags := by
  rw [stringMap_eq_ok_iff]
  constructor
  · rintro (hnone | hnull' | ⟨entries, hentries⟩)
    · cases h.symm.trans hnone
    · exact absurd (Option.some.inj (h.symm.trans hnull')) hnull
    · exact ⟨entries, Option.some.inj (h.symm.trans hentries), rfl⟩
  · rintro ⟨entries, rfl, rfl⟩
    exact .strings entries h

lemma gives_nestedStringMap :
    Gives cluster (HasTags record path) (nestedStringMap cluster description record path) := by
  unfold nestedStringMap
  split
  case h_1 hvalue => exact gives_ok fun tags => hasTags_iff_of_empty (.inl hvalue)
  case h_2 hvalue => exact gives_ok fun tags => hasTags_iff_of_empty (.inr hvalue)
  case h_3 value hnull hvalue =>
    have hiff : ∀ tags, HasTags record path tags ↔ stringMap value = .ok tags :=
      fun tags => hasTags_iff_stringMap hvalue hnull
    split
    case h_1 m hm =>
      apply gives_ok
      intro tags
      rw [hiff, hm, Except.ok.injEq]
      exact eq_comm
    case h_2 reason hreason =>
      apply gives_error
      intro tags htags
      rw [hiff, hreason] at htags
      cases htags

end Fields

end BucketOperator.Cluster
