import BucketOperator.Json.Reading
import Mathlib.Data.List.Nodup

/-!
# What records hold

A document is a closed record if it is a list of fields in their order, or an object whose members
have texts for names and name no known field twice. What the readers of a record make of it depends
only on the fields that it holds.
-/

namespace BucketOperator.Json.Tree

/-- A document holds the known fields of a closed record: in their order, or by name, each at most
once. -/
inductive Holds (names : List String) : Tree → (String → Option Tree) → Prop where
  | listed {items : List Tree} (h : items.length ≤ names.length) :
      Holds names (.array items) (List.lookup · (names.zip items))
  | named {members : List (String × Tree)}
      (h : ∀ name ∈ names, (members.map Prod.fst).count name ≤ 1) :
      Holds names (.object (members.map fun member => (some member.1, member.2)))
        (List.lookup · members)

/-- What a text that may be missing says, which is nothing when it is. -/
def SaysText (field : String → Option Tree) (name text : String) : Prop :=
  field name = some (.string (some text)) ∨ field name = none ∧ text = ""

/-! ### Fields that are read -/

section Fields

variable {α : Type} {names : List String} {tree : Tree} {field : String → Option Tree}
  {fields : Fields} {name : String} {read : Tree → Option α}

lemma length_eraseDups_le : ∀ keys : List String, keys.eraseDups.length ≤ keys.length
  | [] => Nat.le_refl _
  | key :: rest => by
    have hfilter := List.length_filter_le (fun k => !k == key) rest
    have hrest := length_eraseDups_le (rest.filter fun k => !k == key)
    rw [List.eraseDups_cons, List.length_cons, List.length_cons]
    exact Nat.succ_le_succ (Nat.le_trans hrest hfilter)
termination_by keys => keys.length
decreasing_by exact Nat.lt_succ_of_le (List.length_filter_le _ _)

lemma length_eraseDups_eq_iff {keys : List String} :
    keys.eraseDups.length = keys.length ↔ keys.Nodup := by
  induction keys with
  | nil => simp
  | cons key rest ih =>
    rw [List.eraseDups_cons, List.nodup_cons, List.length_cons, List.length_cons]
    have hdups := length_eraseDups_le (rest.filter fun k => !k == key)
    have hfilter := List.length_filter_le (fun k => !k == key) rest
    constructor
    · intro h
      have hlength : (rest.filter fun k => !k == key).length = rest.length := by omega
      have hall := List.filter_eq_self.2 (List.length_filter_eq_length_iff.1 hlength)
      rw [hall] at h
      refine ⟨fun hkey => ?_, ih.1 (Nat.succ.inj h)⟩
      simpa using List.length_filter_eq_length_iff.1 hlength key hkey
    · rintro ⟨hkey, hrest⟩
      have hall : rest.filter (fun k => !k == key) = rest := by
        refine List.filter_eq_self.2 fun k hk => ?_
        have hne : k ≠ key := fun h => hkey (h ▸ hk)
        simpa using hne
      rw [hall, ih.2 hrest]

/-- Members have texts for names. -/
lemma mapM_name_eq_some_iff {members : List (Option String × Tree)}
    {named : List (String × Tree)} :
    (members.mapM fun member => do return (← member.1, member.2)) = some named ↔
      members = named.map fun member => (some member.1, member.2) := by
  induction members generalizing named with
  | nil => cases named <;> simp
  | cons member rest ih =>
    rw [List.mapM_cons]
    simp only [Option.bind_eq_bind, Option.bind_eq_some_iff, Option.pure_def, Option.some.injEq]
      at ih ⊢
    constructor
    · rintro ⟨_, ⟨key, hkey, rfl⟩, others, hothers, rfl⟩
      rw [List.map_cons, ← ih.1 hothers, ← hkey]
    · cases named with
      | nil => nofun
      | cons first others =>
        intro h
        obtain ⟨rfl, hrest⟩ := List.cons.inj h
        exact ⟨first, ⟨first.1, rfl, rfl⟩, others, ih.2 hrest, rfl⟩

lemma knownMembers?_eq_some_iff {members : List (Option String × Tree)} :
    knownMembers? names members = some fields ↔ ∃ named : List (String × Tree),
      members = named.map (fun member => (some member.1, member.2)) ∧
        fields = named.filter fun member => names.contains member.1 := by
  change (members.mapM fun member : Option String × Tree => do
    return (← member.1, member.2)).bind (fun named =>
      some (named.filter fun member => names.contains member.1)) = some fields ↔ _
  simp only [Option.bind_eq_some_iff, mapM_name_eq_some_iff, Option.some.injEq,
    @eq_comm Fields _ fields]

/-- No known name is repeated. -/
lemma nodup_known_iff {named : List (String × Tree)} :
    ((named.filter fun member => names.contains member.1).map Prod.fst).Nodup ↔
      ∀ name ∈ names, (named.map Prod.fst).count name ≤ 1 := by
  have hknown : (named.filter fun member => names.contains member.1).map Prod.fst =
      (named.map Prod.fst).filter fun name => names.contains name := by
    rw [List.filter_map]
    rfl
  rw [hknown, List.nodup_iff_count_le_one]
  refine forall_congr' fun name => ?_
  by_cases hname : name ∈ names
  · rw [List.count_filter (by simpa using hname)]
    simp [hname]
  · rw [List.count_eq_zero.2 (by simp [hname])]
    simp [hname]

lemma closedFields?_object_eq_some_iff {members : List (Option String × Tree)} :
    (object members).closedFields? names = some fields ↔
      knownMembers? names members = some fields ∧ (fields.map Prod.fst).Nodup := by
  rw [closedFields?]
  cases knownMembers? names members with
  | none =>
    constructor
    · rintro ⟨⟩
    · rintro ⟨⟨⟩, -⟩
  | some known =>
    have hlength : (known.map Prod.fst).eraseDups.length = known.length ↔
        (known.map Prod.fst).Nodup := by
      rw [← length_eraseDups_eq_iff, List.length_map]
    change Option.bind (guard ((known.map Prod.fst).eraseDups.length = known.length))
      (fun _ => some known) = some fields ↔ _
    by_cases hnodup : (known.map Prod.fst).Nodup
    · rw [guard, if_pos (hlength.2 hnodup)]
      constructor
      · rintro ⟨⟩
        exact ⟨rfl, hnodup⟩
      · exact fun h => h.1
    · rw [guard, if_neg (mt hlength.1 hnodup)]
      constructor
      · rintro ⟨⟩
      · rintro ⟨⟨⟩, h⟩
        exact absurd h hnodup

lemma exists_holds_of_closedFields? (h : tree.closedFields? names = some fields) :
    ∃ field, tree.Holds names field ∧ ∀ name ∈ names, field name = fields.lookup name := by
  cases tree with
  | array items =>
    rw [closedFields?] at h
    split at h
    next hlength =>
      cases h
      exact ⟨_, .listed hlength, fun _ _ => rfl⟩
    next => cases h
  | object members =>
    obtain ⟨hknown, hnodup⟩ := closedFields?_object_eq_some_iff.1 h
    obtain ⟨named, rfl, rfl⟩ := knownMembers?_eq_some_iff.1 hknown
    refine ⟨_, .named (nodup_known_iff.1 hnodup), fun name hname => ?_⟩
    rw [lookup_filter_key fun k => names.contains k, if_pos (by simpa using hname)]
  | _ => cases h

lemma Holds.exists_closedFields? (h : tree.Holds names field) :
    ∃ fields, tree.closedFields? names = some fields ∧
      ∀ name ∈ names, field name = List.lookup name fields := by
  cases h with
  | @listed items hlength =>
    exact ⟨names.zip items, by rw [closedFields?, if_pos hlength], fun _ _ => rfl⟩
  | @named members hcount =>
    refine ⟨_, closedFields?_object_eq_some_iff.2
      ⟨knownMembers?_eq_some_iff.2 ⟨members, rfl, rfl⟩, nodup_known_iff.2 hcount⟩, ?_⟩
    intro name hname
    rw [lookup_filter_key fun k => names.contains k, if_pos (by simpa using hname)]

/-- What depends on known fields only is told alike of those that are read and those that a
document holds. -/
lemma exists_closedFields?_iff (P : (String → Option Tree) → Prop)
    (hP : ∀ field field', (∀ name ∈ names, field name = field' name) → P field → P field') :
    (∃ fields, tree.closedFields? names = some fields ∧ P (List.lookup · fields)) ↔
      ∃ field, tree.Holds names field ∧ P field := by
  constructor
  · rintro ⟨fields, hfields, h⟩
    obtain ⟨field, hholds, hfield⟩ := exists_holds_of_closedFields? hfields
    exact ⟨field, hholds, hP _ field (fun name hname => (hfield name hname).symm) h⟩
  · rintro ⟨field, hholds, h⟩
    obtain ⟨fields, hfields, hfield⟩ := hholds.exists_closedFields?
    exact ⟨fields, hfields, hP field _ hfield h⟩

lemma required_readString_iff {text : String} : fields.required name readString = some text ↔
    fields.lookup name = some (.string (some text)) := by
  rw [Fields.required]
  cases fields.lookup name with
  | none => simp
  | some tree => cases tree <;> simp [readString]

lemma orElse_readString_iff {text : String} : fields.orElse name "" readString = some text ↔
    SaysText (List.lookup · fields) name text := by
  rw [Fields.orElse, SaysText]
  cases fields.lookup name with
  | none => simp [eq_comm]
  | some tree => cases tree <;> simp [readString]

lemma optional_eq_some_iff (hread : read .null = none) {value : Option α} :
    fields.optional name read = some value ↔
      (fields.lookup name = none ∨ fields.lookup name = some .null) ∧ value = none ∨
        ∃ tree a, fields.lookup name = some tree ∧ read tree = some a ∧ value = some a := by
  rw [Fields.optional, Fields.orElse]
  cases fields.lookup name with
  | none => simp [eq_comm]
  | some tree =>
    have hmap : (read tree).map some = some value ↔ ∃ a, read tree = some a ∧ value = some a := by
      simp only [Option.map_eq_some_iff, @eq_comm _ value]
    cases tree with
    | null => simp [readOption, hread, eq_comm]
    | _ => simpa [readOption] using hmap

end Fields

end BucketOperator.Json.Tree
