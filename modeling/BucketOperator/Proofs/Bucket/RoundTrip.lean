import BucketOperator.Bucket.Definition
import BucketOperator.Proofs.Bucket.Patching
import BucketOperator.Proofs.Json.RoundTrip

/-!
# Specs and statuses survive the wire

What is written of a spec or a status is read back as the same spec or status. It has the members
that the definition of buckets lists and no others, and what is absent or empty is left out of it
rather than written as null or as an empty list.
-/

namespace BucketOperator

/-- Whether nothing in a value is null or an empty list. -/
inductive Json.IsCompact : Json → Prop where
  | bool (b : Bool) : IsCompact (.bool b)
  | number (n : Json.Number) : IsCompact (.number n)
  | string (s : String) : IsCompact (.string s)
  | array {items : List Json} (nonempty : items ≠ []) (h : ∀ v ∈ items, IsCompact v) :
    IsCompact (.array items)
  | object {members : List (String × Json)} (h : ∀ e ∈ members, IsCompact e.2) :
    IsCompact (.object members)

/-- Whether a value has the form that a schema states, with the listed members and no others. -/
inductive CustomResource.Schema.Admits : Schema → Json → Prop where
  | string (label : Label) (s : String) : Admits (.string label) (.string s)
  | boolean (label : Label) (b : Bool) : Admits (.boolean label) (.bool b)
  | int32 (label : Label) (n : Int32) : Admits (.int32 label) (.int n.toInt)
  | choice (label : Label) {options : List String} {s : String} (h : s ∈ options) :
    Admits (.choice label options) (.string s)
  | array (label : Label) {schema : Schema} {items : List Json} (h : ∀ v ∈ items, Admits schema v) :
    Admits (.array label schema) (.array items)
  | object (label : Label) {required : List String} {properties : List (String × Schema)}
    {members : List (String × Json)} (present : ∀ name ∈ required, name ∈ members.map (·.1))
    (listed : ∀ e ∈ members, e.1 ∈ properties.map (·.1))
    (h : ∀ e ∈ members, ∀ schema, (e.1, schema) ∈ properties → Admits schema e.2) :
    Admits (.object label required properties) (.object members)

namespace Bucket

open Json CustomResource
open Json.Tree (readMember fieldsOf)

/-- What is written of a value goes over the wire: read back, from the document and from its text,
it is the value; it has the form of the schema; and nothing in it is null or an empty list. -/
structure SurvivesWire {α : Type} (read : Tree → Option α) (schema : Schema) (value : α)
    (written : Json) : Prop where
  reads : read (Tree.ofJson written) = some value
  readsText : (Tree.parse? written.render).bind read = some value
  admitted : schema.Admits written
  compact : written.IsCompact

/-- All numbers of a schema are integers of 32 bits. -/
lemma isIntegral_of_admits {schema : Schema} {v : Json} (h : schema.Admits v) : v.IsIntegral := by
  induction h with
  | string label s => exact .string s
  | boolean label b => exact .bool b
  | int32 label n =>
    have hlow := n.le_toInt
    have hhigh := n.toInt_lt
    exact .number ⟨by omega, by omega⟩
  | choice label h => exact .string _
  | array label h ih => exact .array ih
  | object label present listed h ih =>
    refine .object fun e he => ?_
    obtain ⟨property, hproperty, hname⟩ := List.mem_map.1 (listed e he)
    exact ih e he property.2 (hname ▸ hproperty)

lemma survivesWire {α : Type} {read : Tree → Option α} {schema : Schema} {value : α}
    {written : Json} (reads : read (Tree.ofJson written) = some value)
    (admitted : schema.Admits written) (compact : written.IsCompact) :
    SurvivesWire read schema value written where
  reads := reads
  readsText := by rw [parse?_render (isIntegral_of_admits admitted), Option.bind_some, reads]
  admitted := admitted
  compact := compact

/-! ### Records with members left out -/

/-- The members of a record, from their names and values; what has no value is left out. -/
def present (entries : List (String × Option Json)) : List (String × Json) :=
  entries.filterMap fun e => e.2.map fun v => (e.1, v)

section Records

variable {entries : List (String × Option Json)}

lemma mem_present {e : String × Json} : e ∈ present entries ↔ (e.1, some e.2) ∈ entries := by
  obtain ⟨key, v⟩ := e
  rw [present, List.mem_filterMap]
  constructor
  · rintro ⟨⟨key, w⟩, hmem, h⟩
    cases w with
    | none => cases h
    | some w =>
      cases h
      exact hmem
  · intro h
    exact ⟨_, h, rfl⟩

lemma pairwise_present (h : entries.Pairwise fun a b => a.1 < b.1) :
    (present entries).Pairwise fun a b => a.1 < b.1 := by
  rw [present, List.pairwise_filterMap]
  refine h.imp fun {d e} hlt a ha b hb => ?_
  obtain ⟨v, -, rfl⟩ := Option.map_eq_some_iff.1 ha
  obtain ⟨w, -, rfl⟩ := Option.map_eq_some_iff.1 hb
  exact hlt

lemma present_cons_none (name : String) :
    present ((name, none) :: entries) = present entries := rfl

lemma present_cons_some (name : String) (v : Json) :
    present ((name, some v) :: entries) = (name, v) :: present entries := rfl

lemma lookup_present_of_forall_lt {key : String} (h : ∀ e ∈ entries, key < e.1) :
    (present entries).lookup key = none := by
  rw [List.lookup_eq_none_iff]
  intro e he
  exact bne_iff_ne.2 (String.ne_of_lt (h _ (mem_present.1 he)))

/-- The members of a record are found by name. -/
lemma get?_present (h : entries.Pairwise fun a b => a.1 < b.1) (key : String) :
    (Json.object (present entries)).get? key = (entries.lookup key).join := by
  rw [Json.get?]
  induction entries with
  | nil => rfl
  | cons e rest ih =>
    obtain ⟨name, value⟩ := e
    obtain ⟨hlt, hrest⟩ := List.pairwise_cons.1 h
    by_cases hkey : key = name
    · subst hkey
      cases value with
      | none =>
        rw [present_cons_none, lookup_present_of_forall_lt hlt, List.lookup_cons_self]
        rfl
      | some v =>
        rw [present_cons_some, List.lookup_cons_self, List.lookup_cons_self]
        rfl
    · have hne : (key == name) = false := beq_eq_false_iff_ne.2 hkey
      cases value with
      | none => rw [present_cons_none, ih hrest, List.lookup_cons, hne]
      | some v => rw [present_cons_some, List.lookup_cons, List.lookup_cons, hne, ih hrest]

lemma isCompact_present (h : ∀ e ∈ entries, ∀ v ∈ e.2, v.IsCompact) :
    (Json.object (present entries)).IsCompact :=
  .object fun e he => h _ (mem_present.1 he) e.2 rfl

/-- A record has the form of a schema if it has so member by member. -/
lemma admits_present {label : Label} {required : List String}
    {properties : List (String × Schema)}
    (hrequired : ∀ name ∈ required, ∃ v, (name, some v) ∈ entries)
    (hentries : ∀ e ∈ entries, e.1 ∈ properties.map (·.1) ∧
      ∀ v ∈ e.2, ∀ schema, (e.1, schema) ∈ properties → schema.Admits v) :
    (Schema.object label required properties).Admits (.object (present entries)) := by
  refine .object label ?_ ?_ ?_
  · intro name hname
    obtain ⟨v, hv⟩ := hrequired name hname
    have hmem : (name, v) ∈ present entries := mem_present.2 hv
    exact List.mem_map_of_mem hmem
  · intro e he
    exact (hentries _ (mem_present.1 he)).1
  · intro e he
    exact (hentries _ (mem_present.1 he)).2 e.2 rfl

end Records

/-! ### Lists and options -/

section Parts

variable {α : Type} {read : Tree → Option α} {write : α → Json}

/-- A list is read back if each of its items is. -/
lemma readList_map (h : ∀ x, read (Tree.ofJson (write x)) = some x) (xs : List α) :
    Tree.readList read (Tree.ofJson (.array (xs.map write))) = some xs := by
  rw [Tree.ofJson, Tree.readList, Tree.ofItems_eq]
  induction xs with
  | nil => rfl
  | cons x xs ih =>
    simp only [List.map_cons, List.mapM_cons, h, ih]
    rfl

/-- A list as a member, left out when it is empty. -/
def listMember (write : α → Json) (xs : List α) : Option Json :=
  if xs.isEmpty then none else some (.array (xs.map write))

/-- The list that is left out is the one that is read where there is none. -/
lemma elim_listMember (h : ∀ x, read (Tree.ofJson (write x)) = some x) (xs : List α) :
    ((listMember write xs).elim (some []) fun v => Tree.readList read (Tree.ofJson v)) =
      some xs := by
  cases xs with
  | nil => rfl
  | cons x xs => exact readList_map h (x :: xs)

lemma admits_listMember {schema : Schema} {label : Label} (h : ∀ x, schema.Admits (write x))
    {xs : List α} {v : Json} (hv : v ∈ listMember write xs) :
    (Schema.array label schema).Admits v := by
  cases xs with
  | nil => cases hv
  | cons x xs =>
    cases hv
    refine .array label fun w hw => ?_
    obtain ⟨y, -, rfl⟩ := List.mem_map.1 hw
    exact h y

lemma isCompact_listMember (h : ∀ x, (write x).IsCompact) {xs : List α} {v : Json}
    (hv : v ∈ listMember write xs) : v.IsCompact := by
  cases xs with
  | nil => cases hv
  | cons x xs =>
    cases hv
    refine .array (List.cons_ne_nil _ _) fun w hw => ?_
    obtain ⟨y, -, rfl⟩ := List.mem_map.1 hw
    exact h y

/-- What is left out when it is absent is absent where there is none. -/
lemma readMember_map (h : ∀ x, read (Tree.ofJson (write x)) = some x)
    (hnull : ∀ x, write x ≠ .null) (x : Option α) :
    readMember read (x.map write) = some x := by
  cases x with
  | none => rfl
  | some x => rw [Option.map_some, readMember, Tree.readOption_ofJson (hnull x), h, Option.map_some]

end Parts

lemma read_string (text : String) : Tree.readString (Tree.ofJson (.string text)) = some text := rfl

/-! ### Tags -/

lemma toJson_tag (tag : BucketTag) : tag.toJson =
    .object (present [("key", some (.string tag.key)), ("value", some (.string tag.value))]) := rfl

lemma read_tag (tag : BucketTag) : BucketTag.read (Tree.ofJson tag.toJson) = some tag := rfl

lemma admits_tag (tag : BucketTag) : tagSchema.Admits tag.toJson := by
  rw [toJson_tag]
  refine admits_present ?_ ?_
  · simp
  · simp [Schema.Admits.string]

lemma isCompact_tag (tag : BucketTag) : tag.toJson.IsCompact := by
  rw [toJson_tag]
  refine isCompact_present ?_
  simp [IsCompact.string]

/-! ### Access roles -/

/-- The members of an access role. -/
def roleEntries (role : AccessRole) : List (String × Option Json) :=
  [("extraBucketNames", listMember .string role.extraBucketNames),
    ("roleName", some (.string role.roleName)),
    ("serviceAccountName", some (.string role.serviceAccountName)),
    ("serviceAccountNamespace", some (.string role.serviceAccountNamespace))]

lemma toJson_role (role : AccessRole) : role.toJson = .object (present (roleEntries role)) := by
  rw [AccessRole.toJson, roleEntries]
  cases role.extraBucketNames <;> rfl

lemma read_role (role : AccessRole) : AccessRole.read (Tree.ofJson role.toJson) = some role := by
  have hkeys : ((roleEntries role).map Prod.fst).Pairwise (· < ·) := by
    change List.Pairwise _
      ["extraBucketNames", "roleName", "serviceAccountName", "serviceAccountNamespace"]
    decide
  have hsorted := List.pairwise_map.1 hkeys
  have hextra : (roleEntries role).lookup "extraBucketNames" =
      some (listMember .string role.extraBucketNames) := rfl
  rw [toJson_role, AccessRole.read, Tree.closedFields?_ofJson (pairwise_present hsorted)]
  simp (disch := decide) only [Option.bind_eq_bind, Option.bind_some, Tree.required_fieldsOf,
    Tree.orElse_fieldsOf, get?_present hsorted, hextra, Option.join_some,
    elim_listMember read_string]
  rfl

lemma admits_role (role : AccessRole) : accessRoleSchema.Admits role.toJson := by
  rw [toJson_role]
  refine admits_present ?_ ?_
  · simp [roleEntries]
  · simpa [roleEntries, Schema.Admits.string] using fun v => admits_listMember (.string Label.none)

lemma isCompact_role (role : AccessRole) : role.toJson.IsCompact := by
  rw [toJson_role]
  refine isCompact_present ?_
  simpa [roleEntries, IsCompact.string] using fun v => isCompact_listMember .string

/-! ### Specs -/

/-- An expiration policy. -/
def expiration (days : Int32) : Json := .object [("days", .int days.toInt)]

lemma read_expiration (days : Int32) :
    BucketSpec.readExpiration (Tree.ofJson (expiration days)) = some days := by
  have hbounds : Int32.minValue.toInt ≤ days.toInt ∧ days.toInt ≤ Int32.maxValue.toInt := by
    have hlow := days.le_toInt
    have hhigh := days.toInt_lt
    have hmin : Int32.minValue.toInt = -2 ^ 31 := rfl
    have hmax : Int32.maxValue.toInt = 2 ^ 31 - 1 := rfl
    omega
  have hread : Tree.readInt32 (Tree.ofJson (.int days.toInt)) = some days := by
    rw [Json.int, Tree.ofJson, Tree.readInt32, Tree.readInt, if_pos hbounds, Option.map_some,
      Int32.ofInt_toInt]
  exact hread

lemma admits_expiration (days : Int32) : expirationPolicySchema.Admits (expiration days) := by
  refine .object _ ?_ ?_ ?_
  · simp
  · simp
  · simp [Schema.Admits.int32]

lemma isCompact_expiration (days : Int32) : (expiration days).IsCompact := by
  refine .object ?_
  simp [Json.int, IsCompact.number]

/-- The members of a spec. -/
def specEntries (spec : BucketSpec) : List (String × Option Json) :=
  [("accessRole", spec.accessRole.map AccessRole.toJson),
    ("expirationPolicy", spec.expirationDays.map expiration),
    ("name", some (.string spec.name)),
    ("reclaimPolicy", some (.string spec.reclaimPolicy.name)),
    ("tags", listMember BucketTag.toJson spec.tags)]

lemma toJson_spec (spec : BucketSpec) : spec.toJson = .object (present (specEntries spec)) := by
  rw [BucketSpec.toJson, specEntries]
  cases spec.accessRole <;> cases spec.expirationDays <;> cases spec.tags <;> rfl

lemma read_reclaimPolicy (policy : ReclaimPolicy) :
    ReclaimPolicy.read (Tree.ofJson (.string policy.name)) = some policy := by
  cases policy <;> rfl

lemma read_spec (spec : BucketSpec) : BucketSpec.read (Tree.ofJson spec.toJson) = some spec := by
  have hkeys : ((specEntries spec).map Prod.fst).Pairwise (· < ·) := by
    change List.Pairwise _ ["accessRole", "expirationPolicy", "name", "reclaimPolicy", "tags"]
    decide
  have hsorted := List.pairwise_map.1 hkeys
  have hrole : (specEntries spec).lookup "accessRole" =
      some (spec.accessRole.map AccessRole.toJson) := rfl
  have hdays : (specEntries spec).lookup "expirationPolicy" =
      some (spec.expirationDays.map expiration) := rfl
  have hpolicy : (specEntries spec).lookup "reclaimPolicy" =
      some (some (.string spec.reclaimPolicy.name)) := rfl
  have htags : (specEntries spec).lookup "tags" =
      some (listMember BucketTag.toJson spec.tags) := rfl
  rw [toJson_spec, BucketSpec.read, Tree.closedFields?_ofJson (pairwise_present hsorted)]
  simp (disch := decide) only [Option.bind_eq_bind, Option.bind_some, Tree.required_fieldsOf,
    Tree.orElse_fieldsOf, Tree.optional_fieldsOf, get?_present hsorted, Option.join_some, hrole,
    hdays, hpolicy, htags, Option.elim_some, read_reclaimPolicy, elim_listMember read_tag,
    readMember_map read_role (fun _ => Json.noConfusion),
    readMember_map read_expiration (fun _ => Json.noConfusion)]
  rfl

lemma admits_spec (spec : BucketSpec) : specSchema.Admits spec.toJson := by
  rw [toJson_spec]
  refine admits_present ?_ ?_
  · simp [specEntries]
  · have hpolicy : spec.reclaimPolicy.name ∈ ["Retain", "Delete"] := by
      cases spec.reclaimPolicy <;> decide
    simpa [specEntries, Schema.Admits.string, admits_role, admits_expiration] using
      ⟨.choice _ hpolicy, fun v => admits_listMember admits_tag⟩

lemma isCompact_spec (spec : BucketSpec) : spec.toJson.IsCompact := by
  rw [toJson_spec]
  refine isCompact_present ?_
  simpa [specEntries, IsCompact.string, isCompact_role, isCompact_expiration] using
    fun v => isCompact_listMember isCompact_tag

/-! ### Statuses -/

/-- The members of a status. -/
def statusEntries (status : BucketStatus) : List (String × Option Json) :=
  [("bucketAzureRoleAssignmentID", status.roleAssignmentId.map .string),
    ("bucketID", status.bucketId.map .string),
    ("bucketReady", some (.bool status.ready))]

lemma toJson_status (status : BucketStatus) :
    status.toJson = .object (present (statusEntries status)) := by
  rw [BucketStatus.toJson, statusEntries]
  cases status.roleAssignmentId <;> cases status.bucketId <;> rfl

lemma read_status (status : BucketStatus) :
    BucketStatus.read (Tree.ofJson status.toJson) = some status := by
  have hkeys : ((statusEntries status).map Prod.fst).Pairwise (· < ·) := by
    change List.Pairwise _ ["bucketAzureRoleAssignmentID", "bucketID", "bucketReady"]
    decide
  have hsorted := List.pairwise_map.1 hkeys
  have hassignment : (statusEntries status).lookup "bucketAzureRoleAssignmentID" =
      some (status.roleAssignmentId.map .string) := rfl
  have hid : (statusEntries status).lookup "bucketID" = some (status.bucketId.map .string) := rfl
  rw [toJson_status, BucketStatus.read, Tree.closedFields?_ofJson (pairwise_present hsorted)]
  simp (disch := decide) only [Option.bind_eq_bind, Option.bind_some, Tree.orElse_fieldsOf,
    Tree.optional_fieldsOf, get?_present hsorted, Option.join_some, hassignment, hid,
    readMember_map read_string (fun _ => Json.noConfusion)]
  rfl

lemma admits_status (status : BucketStatus) : statusSchema.Admits status.toJson := by
  rw [toJson_status]
  refine admits_present ?_ ?_
  · simp
  · simp [statusEntries, Schema.Admits.string, Schema.Admits.boolean]

lemma isCompact_status (status : BucketStatus) : status.toJson.IsCompact := by
  rw [toJson_status]
  refine isCompact_present ?_
  simp [statusEntries, IsCompact.string, IsCompact.bool]

/-- Every spec and every status goes over the wire, and what was read from any document, however
it was written, is read once more from what is written of it. -/
theorem records_survive_wire :
    (∀ spec : BucketSpec, SurvivesWire BucketSpec.read specSchema spec spec.toJson) ∧
    (∀ status : BucketStatus, SurvivesWire BucketStatus.read statusSchema status status.toJson) ∧
    (∀ document : Tree, ((BucketSpec.read document).bind fun spec =>
      (Tree.parse? spec.toJson.render).bind BucketSpec.read) = BucketSpec.read document) ∧
    ∀ document : Tree, ((BucketStatus.read document).bind fun status =>
      (Tree.parse? status.toJson.render).bind BucketStatus.read) = BucketStatus.read document := by
  have hspec (spec : BucketSpec) : SurvivesWire BucketSpec.read specSchema spec spec.toJson :=
    survivesWire (read_spec spec) (admits_spec spec) (isCompact_spec spec)
  have hstatus (status : BucketStatus) :
      SurvivesWire BucketStatus.read statusSchema status status.toJson :=
    survivesWire (read_status status) (admits_status status) (isCompact_status status)
  refine ⟨hspec, hstatus, fun document => ?_, fun document => ?_⟩
  · cases BucketSpec.read document with
    | none => rfl
    | some spec => exact (hspec spec).readsText
  · cases BucketStatus.read document with
    | none => rfl
    | some status => exact (hstatus status).readsText

/-- A spec may come as a list of its fields, with null for what is absent and without the last. -/
example : (Tree.parse? "[\"loki\", null, \"Delete\"]").bind BucketSpec.read =
    some ⟨"loki", none, .delete, none, []⟩ := by
  decide +kernel

end Bucket

end BucketOperator
