import BucketOperator.Proofs.Json.Records
import Mathlib.Tactic.Common

/-!
# Members of documents

A value is ordered when the members of each object in it are in increasing key order, as they are
in every value that was read from a text. The fields of a record can then be read off its members
one by one, and a merge patch changes the members it names and no others.
-/

namespace BucketOperator.Json

/-- Whether the members of every object in a value are in increasing key order, each key once. -/
inductive IsOrdered : Json → Prop where
  | null : IsOrdered .null
  | bool (b : Bool) : IsOrdered (.bool b)
  | number (n : Number) : IsOrdered (.number n)
  | string (s : String) : IsOrdered (.string s)
  | array {items : List Json} (h : ∀ v ∈ items, IsOrdered v) : IsOrdered (.array items)
  | object {members : List (String × Json)} (sorted : members.Pairwise fun a b => a.1 < b.1)
      (h : ∀ e ∈ members, IsOrdered e.2) : IsOrdered (.object members)

/-! ### Items and texts -/

/-- The items of an array. Nothing else has items. -/
def itemsOf : Option Json → List Json
  | some (.array items) => items
  | _ => []

/-- The text that a value is, if it is one. -/
def textOf : Option Json → Option String
  | some (.string text) => some text
  | _ => none

lemma array?_eq_some_iff {value : Json} {items : List Json} :
    value.array? = some items ↔ value = .array items := by
  cases value <;> simp [array?]

lemma getD_array? (value : Option Json) : (value.bind array?).getD [] = itemsOf value := by
  rcases value with _ | value
  · rfl
  · cases value <;> rfl

lemma bind_string? (value : Option Json) : value.bind string? = textOf value := by
  rcases value with _ | value
  · rfl
  · cases value <;> rfl

lemma textOf_eq_some_iff {value : Option Json} {text : String} :
    textOf value = some text ↔ value = some (.string text) := by
  constructor
  · intro h
    unfold textOf at h
    split at h
    · rw [Option.some.inj h]
    · cases h
  · rintro rfl
    rfl

/-! ### Members by name -/

section Members

variable {value member : Json} {key k : String}

@[simp] lemma get?_set : (value.set key member).get? k =
    if k = key then some member else value.get? k := by
  cases value with
  | object members => exact lookup_insertEntry
  | _ =>
    by_cases hk : k = key
    · simp [set, get?, hk]
    · simp [set, get?, hk, List.lookup_cons, beq_eq_false_iff_ne.2 hk]

/-- A member of a member. -/
lemma path?_pair {name : String} :
    value.path? [name, k] = ((value.get? name).getD .null).get? k := by
  simp only [path?]
  cases value.get? name with
  | none => rfl
  | some member => simp

lemma mem_of_lookup {members : List (String × Json)} (h : members.lookup key = some member) :
    (key, member) ∈ members := by
  induction members with
  | nil => cases h
  | cons e rest ih =>
    obtain ⟨k, v⟩ := e
    rw [List.lookup_cons] at h
    split at h
    next heq =>
      cases h
      exact List.mem_cons.2 (.inl (by rw [beq_iff_eq.1 heq]))
    · exact List.mem_cons_of_mem _ (ih h)

lemma IsOrdered.pairwise {members : List (String × Json)} (h : (Json.object members).IsOrdered) :
    members.Pairwise fun a b => a.1 < b.1 := by
  cases h with
  | object sorted _ => exact sorted

lemma IsOrdered.get? (h : value.IsOrdered) (hk : value.get? key = some member) :
    member.IsOrdered := by
  cases h with
  | object _ hmembers => exact hmembers _ (mem_of_lookup hk)
  | _ => cases hk

lemma IsOrdered.getD (h : value.IsOrdered) : ((value.get? key).getD .null).IsOrdered := by
  cases hk : value.get? key with
  | none => exact .null
  | some member => exact h.get? hk

lemma IsOrdered.set (h : value.IsOrdered) (key : String) (hm : member.IsOrdered) :
    (value.set key member).IsOrdered := by
  cases h with
  | object sorted hmembers =>
    refine .object (insertEntry_sorted sorted) ?_
    intro e he
    rcases mem_insertEntry he with rfl | he
    · exact hm
    · exact hmembers e he
  | _ =>
    refine .object (List.pairwise_singleton _ _) ?_
    intro e he
    cases List.mem_singleton.1 he
    exact hm

lemma IsOrdered.erase (h : value.IsOrdered) : (value.erase key).IsOrdered := by
  cases h with
  | object sorted hmembers =>
    exact .object (sorted.filter _) fun e he => hmembers e (List.mem_filter.1 he).1
  | null => exact .null
  | bool b => exact .bool b
  | number n => exact .number n
  | string s => exact .string s
  | array hitems => exact .array hitems

lemma isOrdered_strings (items : List String) : (strings items).IsOrdered := by
  refine .array ?_
  intro v hv
  obtain ⟨s, _, rfl⟩ := List.mem_map.1 hv
  exact .string s

end Members

/-! ### Equality -/

mutual

/-- Values that pass the test for being the same are. -/
theorem eq_of_same : ∀ {a b : Json}, same a b = true → a = b
  | .null, .null, _ => rfl
  | .bool _, .bool _, h => congrArg _ (eq_of_beq h)
  | .number _, .number _, h => congrArg _ (eq_of_beq h)
  | .string _, .string _, h => congrArg _ (eq_of_beq h)
  | .array _, .array _, h => congrArg _ (eq_of_sameItems h)
  | .object _, .object _, h => congrArg _ (eq_of_sameMembers h)

theorem eq_of_sameItems : ∀ {as bs : List Json}, sameItems as bs = true → as = bs
  | [], [], _ => rfl
  | a :: as, b :: bs, h => by
    obtain ⟨h, hs⟩ := Bool.and_eq_true_iff.1 h
    rw [eq_of_same h, eq_of_sameItems hs]

theorem eq_of_sameMembers : ∀ {as bs : List (String × Json)}, sameMembers as bs = true → as = bs
  | [], [], _ => rfl
  | (k, a) :: as, (l, b) :: bs, h => by
    obtain ⟨h, hs⟩ := Bool.and_eq_true_iff.1 h
    obtain ⟨hk, h⟩ := Bool.and_eq_true_iff.1 h
    rw [eq_of_beq hk, eq_of_same h, eq_of_sameMembers hs]

end

/-! ### Values of documents -/

lemma isOrdered_foldl_insertEntry {entries members : List (String × Json)}
    (h : (Json.object members).IsOrdered) (hentries : ∀ e ∈ entries, e.2.IsOrdered) :
    (Json.object (entries.foldl (fun l e => insertEntry e.1 e.2 l) members)).IsOrdered := by
  induction entries generalizing members with
  | nil => exact h
  | cons e rest ih =>
    obtain ⟨he, hrest⟩ := List.forall_mem_cons.1 hentries
    exact ih (h.set e.1 he) hrest

mutual

/-- The value of a document is ordered. -/
theorem isOrdered_of_value? : ∀ {tree : Tree} {value : Json}, tree.value? = some value →
    value.IsOrdered
  | .null, _, h => by
    cases h
    exact .null
  | .bool b, _, h => by
    cases h
    exact .bool b
  | .number n, _, h => by
    obtain ⟨n, -, rfl⟩ := Option.map_eq_some_iff.1 h
    exact .number n
  | .string s, _, h => by
    obtain ⟨s, -, rfl⟩ := Option.map_eq_some_iff.1 h
    exact .string s
  | .array items, _, h => by
    obtain ⟨values, hvalues, rfl⟩ := Option.map_eq_some_iff.1 h
    exact .array (isOrdered_of_values? hvalues)
  | .object members, _, h => by
    obtain ⟨entries, hentries, rfl⟩ := Option.map_eq_some_iff.1 h
    exact isOrdered_foldl_insertEntry (.object .nil (by simp)) (isOrdered_of_memberValues? hentries)

theorem isOrdered_of_values? : ∀ {items : List Tree} {values : List Json},
    Tree.values? items = some values → ∀ v ∈ values, v.IsOrdered
  | [], _, h => by
    cases h
    simp
  | tree :: rest, _, h => by
    obtain ⟨value, hvalue, h⟩ := Option.bind_eq_some_iff.1 h
    obtain ⟨values, hvalues, h⟩ := Option.bind_eq_some_iff.1 h
    cases h
    exact List.forall_mem_cons.2 ⟨isOrdered_of_value? hvalue, isOrdered_of_values? hvalues⟩

theorem isOrdered_of_memberValues? : ∀ {members : List (Option String × Tree)}
    {entries : List (String × Json)}, Tree.memberValues? members = some entries →
    ∀ e ∈ entries, e.2.IsOrdered
  | [], _, h => by
    cases h
    simp
  | (key, tree) :: rest, _, h => by
    obtain ⟨key, -, h⟩ := Option.bind_eq_some_iff.1 h
    obtain ⟨value, hvalue, h⟩ := Option.bind_eq_some_iff.1 h
    obtain ⟨entries, hentries, h⟩ := Option.bind_eq_some_iff.1 h
    cases h
    exact List.forall_mem_cons.2
      ⟨isOrdered_of_value? hvalue, isOrdered_of_memberValues? hentries⟩

end

/-! ### Merge patches -/

section Merging

variable {target change : Json} {key k : String} {rest : List (String × Json)}

lemma mergeMembers_cons (h : change ≠ .null) :
    target.mergeMembers ((key, change) :: rest) =
      (target.set key (((target.get? key).getD .null).mergePatch change)).mergeMembers rest := by
  cases change with
  | null => exact absurd rfl h
  | _ => rfl

/-- A patch that removes nothing sets one member after the other. -/
lemma mergePatch_cons (h : change ≠ .null) :
    target.mergePatch (.object ((key, change) :: rest)) =
      (target.set key (((target.get? key).getD .null).mergePatch change)).mergePatch
        (.object rest) := by
  have hset : ∀ value : Json, (target.set key value).mergePatch (.object rest) =
      (target.set key value).mergeMembers rest := by
    cases target <;> exact fun _ => rfl
  rw [hset]
  -- What is no object has no members, and gets the same ones.
  cases target with
  | object members => exact mergeMembers_cons h
  | _ => exact (mergeMembers_cons h : mergeMembers (.object []) _ = _)

@[simp] lemma set_mergePatch_nil :
    (target.set key change).mergePatch (.object []) = target.set key change := by
  cases target <;> rfl

lemma mergePatch_singleton (h : change ≠ .null) :
    target.mergePatch (.object [(key, change)]) =
      target.set key (((target.get? key).getD .null).mergePatch change) := by
  rw [mergePatch_cons h, set_mergePatch_nil]

lemma exists_mergeMembers_eq {members changes : List (String × Json)} :
    ∃ merged, (Json.object members).mergeMembers changes = .object merged := by
  induction changes generalizing members with
  | nil => exact ⟨members, rfl⟩
  | cons e rest ih =>
    obtain ⟨key, change⟩ := e
    cases change <;> exact ih

/-- Whatever members are merged into becomes an object. -/
lemma exists_mergePatch_eq {changes : List (String × Json)} :
    ∃ merged, target.mergePatch (.object changes) = .object merged := by
  cases target <;> exact exists_mergeMembers_eq

/-- An ordered value stays ordered when ordered changes are merged into it. -/
lemma IsOrdered.mergeMembers {changes : List (String × Json)}
    (hchanges : ∀ e ∈ changes, ∀ t : Json, t.IsOrdered → (t.mergePatch e.2).IsOrdered)
    (h : target.IsOrdered) : (target.mergeMembers changes).IsOrdered := by
  induction changes generalizing target with
  | nil => exact h
  | cons e rest ih =>
    obtain ⟨key, change⟩ := e
    obtain ⟨hchange, hrest⟩ := List.forall_mem_cons.1 hchanges
    by_cases hnull : change = .null
    · subst hnull
      exact ih hrest h.erase
    · rw [mergeMembers_cons hnull]
      exact ih hrest (h.set key (hchange _ h.getD))

theorem IsOrdered.mergePatch (hchange : change.IsOrdered) (h : target.IsOrdered) :
    (target.mergePatch change).IsOrdered := by
  induction hchange generalizing target with
  | object _ _ ih =>
    have hempty : (Json.object []).IsOrdered := .object .nil (by simp)
    cases h with
    | object sorted hmembers =>
      exact IsOrdered.mergeMembers (fun e he t => ih e he) (.object sorted hmembers)
    | _ => exact IsOrdered.mergeMembers (fun e he t => ih e he) hempty
  | null => exact .null
  | bool b => exact .bool b
  | number n => exact .number n
  | string s => exact .string s
  | array hitems _ => exact .array hitems

/-- What is no object replaces whatever it is merged into. -/
lemma mergePatch_of_flat (h : ∀ members, change ≠ .object members) :
    target.mergePatch change = change := by
  cases change with
  | object members => exact absurd rfl (h members)
  | _ => rfl

end Merging

/-! ### Reading fields -/

namespace Tree

variable {α : Type} {names : List String} {members : List (String × Json)} {name : String}

lemma ofMembers_eq : ofMembers members = members.map fun e => (some e.1, ofJson e.2) := by
  induction members with
  | nil => rfl
  | cons e rest ih => simp [ofMembers, ih]

lemma ofItems_eq (items : List Json) : ofItems items = items.map ofJson := by
  induction items with
  | nil => rfl
  | cons v rest ih => simp [ofItems, ih]

/-- The fields of a record by name, in the order of the members. -/
def fieldsOf (names : List String) (members : List (String × Json)) : Fields :=
  (members.map fun e => (e.1, ofJson e.2)).filter fun e => names.contains e.1

lemma knownMembers?_ofMembers :
    knownMembers? names (ofMembers members) = some (fieldsOf names members) := by
  refine knownMembers?_eq_some_iff.2 ⟨members.map fun e => (e.1, ofJson e.2), ?_, rfl⟩
  rw [ofMembers_eq, List.map_map]
  rfl

lemma lookup_fieldsOf (h : name ∈ names) :
    (fieldsOf names members).lookup name = ((Json.object members).get? name).map ofJson := by
  rw [Json.get?, fieldsOf, lookup_filter_key fun k => names.contains k, if_pos (by simpa using h)]
  induction members with
  | nil => rfl
  | cons e rest ih =>
    obtain ⟨key, value⟩ := e
    simp only [List.map_cons, List.lookup_cons, ih]
    cases name == key <;> rfl

lemma pairwise_fieldsOf (h : members.Pairwise fun a b => a.1 < b.1) :
    (fieldsOf names members).Pairwise fun a b => a.1 < b.1 :=
  List.Pairwise.filter _ (List.pairwise_map.2 h)

/-- The fields of a closed record, read off an object. -/
lemma closedFields?_ofJson (h : members.Pairwise fun a b => a.1 < b.1) :
    (ofJson (.object members)).closedFields? names = some (fieldsOf names members) := by
  have hnodup : ((fieldsOf names members).map Prod.fst).Nodup :=
    List.pairwise_map.2 ((pairwise_fieldsOf h).imp String.ne_of_lt)
  exact closedFields?_object_eq_some_iff.2 ⟨knownMembers?_ofMembers, hnodup⟩

lemma openFields?_ofJson :
    (ofJson (.object members)).openFields? names = some (fieldsOf names members).reverse := by
  rw [ofJson, openFields?, knownMembers?_ofMembers]
  rfl

/-- What is read of a member that may be missing or null. -/
def readMember (read : Tree → Option α) : Option Json → Option (Option α)
  | some value => readOption read (ofJson value)
  | none => some none

lemma readOption_ofJson {read : Tree → Option α} {value : Json} (h : value ≠ .null) :
    readOption read (ofJson value) = (read (ofJson value)).map some := by
  cases value with
  | null => exact absurd rfl h
  | _ => rfl

lemma optional_fieldsOf {read : Tree → Option α} (h : name ∈ names) :
    (fieldsOf names members).optional name read =
      readMember read ((Json.object members).get? name) := by
  rw [Fields.optional, Fields.orElse, lookup_fieldsOf h]
  cases (Json.object members).get? name <;> rfl

lemma orElse_fieldsOf {read : Tree → Option α} {default : α} (h : name ∈ names) :
    (fieldsOf names members).orElse name default read =
      ((Json.object members).get? name).elim (some default) fun v => read (ofJson v) := by
  rw [Fields.orElse, lookup_fieldsOf h]
  cases (Json.object members).get? name <;> rfl

lemma required_fieldsOf {read : Tree → Option α} (h : name ∈ names) :
    (fieldsOf names members).required name read =
      ((Json.object members).get? name).bind fun v => read (ofJson v) := by
  rw [Fields.required, lookup_fieldsOf h, Option.bind_map]
  rfl

lemma filter_key_of_pairwise {fields : Fields} (h : fields.Pairwise fun a b => a.1 < b.1) :
    fields.filter (fun e => e.1 == name) =
      match fields.lookup name with
      | some tree => [(name, tree)]
      | none => [] := by
  induction fields with
  | nil => rfl
  | cons e rest ih =>
    obtain ⟨key, tree⟩ := e
    obtain ⟨hkey, hrest⟩ := List.pairwise_cons.1 h
    by_cases hk : key = name
    · subst hk
      have hnone : rest.filter (fun e => e.1 == key) = [] := by
        refine List.filter_eq_nil_iff.2 ?_
        intro e he
        simpa using (String.ne_of_lt (hkey e he)).symm
      simp [hnone]
    · have hne : (name == key) = false := beq_eq_false_iff_ne.2 (Ne.symm hk)
      simp [hk, hne, List.lookup_cons, ih hrest]

/-- A field of an open record, read off an object. -/
lemma optionalAll_fieldsOf {read : Tree → Option α} (h : name ∈ names)
    (hsorted : members.Pairwise fun a b => a.1 < b.1) :
    Fields.optionalAll (fieldsOf names members).reverse name read =
      readMember read ((Json.object members).get? name) := by
  rw [Fields.optionalAll, List.filter_reverse,
    filter_key_of_pairwise (pairwise_fieldsOf hsorted), lookup_fieldsOf h]
  cases (Json.object members).get? name with
  | none => rfl
  | some value =>
    simp only [Option.map_some, List.reverse_singleton, readMember]
    cases hr : readOption read (ofJson value) <;> simp [hr]

/-- Texts are read from the list of them and from nothing else. -/
lemma readList_readString_iff {value : Json} {texts : List String} :
    readList readString (ofJson value) = some texts ↔ value = .strings texts := by
  cases value with
  | array items =>
    rw [ofJson, readList, ofItems_eq, strings, Json.array.injEq]
    induction items generalizing texts with
    | nil => cases texts <;> simp
    | cons v rest ih =>
      simp only [List.map_cons, List.mapM_cons, Option.bind_eq_bind, Option.bind_eq_some_iff, ih,
        Option.pure_def, Option.some.injEq]
      constructor
      · rintro ⟨s, hs, texts, rfl, rfl⟩
        cases v with
        | string _ =>
          cases hs
          rfl
        | _ => cases hs
      · cases texts with
        | nil => rintro ⟨⟩
        | cons s texts =>
          intro h
          obtain ⟨rfl, rfl⟩ := List.cons.inj h
          exact ⟨s, rfl, texts, rfl, rfl⟩
  | _ => simp [ofJson, readList, strings]

end Tree

end BucketOperator.Json
