import BucketOperator.Proofs.Json.Members
import BucketOperator.Proofs.Json.RoundTrip

/-!
# What written values denote

The text of an ordered value denotes that value: its members are already in the order, and free of
the repetitions, in which a document is read.
-/

namespace BucketOperator

section Entries

variable {α : Type} {key : String} {value : α} {l entries : List (String × α)}

/-- An entry behind all others is put at the end. -/
lemma insertEntry_of_forall_lt (h : ∀ e ∈ l, e.1 < key) :
    insertEntry key value l = l ++ [(key, value)] := by
  induction l with
  | nil => rfl
  | cons e rest ih =>
    obtain ⟨he, hrest⟩ := List.forall_mem_cons.1 h
    rw [insertEntry, if_neg (String.lt_asymm he), if_neg (String.ne_of_lt he).symm, ih hrest]
    rfl

/-- Sorted entries are put one behind the other. -/
lemma foldl_insertEntry_of_pairwise (h : (l ++ entries).Pairwise fun a b => a.1 < b.1) :
    entries.foldl (fun l e => insertEntry e.1 e.2 l) l = l ++ entries := by
  induction entries generalizing l with
  | nil => simp
  | cons e rest ih =>
    have hl : ∀ a ∈ l, a.1 < e.1 := fun a ha =>
      (List.pairwise_append.1 h).2.2 a ha e List.mem_cons_self
    rw [List.append_cons] at h ⊢
    rw [List.foldl_cons, insertEntry_of_forall_lt hl]
    exact ih h

end Entries

namespace Json

lemma ofMembers_of_pairwise {members : List (String × Json)}
    (h : members.Pairwise fun a b => a.1 < b.1) : ofMembers members = .object members := by
  rw [ofMembers, foldl_insertEntry_of_pairwise h, List.nil_append]

namespace Tree

mutual

/-- The document that writes an ordered value denotes it. -/
theorem value?_ofJson : ∀ {v : Json}, v.IsOrdered → (ofJson v).value? = some v
  | .null, _ => rfl
  | .bool _, _ => rfl
  | .number _, _ => rfl
  | .string _, _ => rfl
  | .array items, h => by
    cases h with
    | array h => rw [ofJson, value?, values?_ofItems h, Option.map_some]
  | .object members, h => by
    cases h with
    | object sorted h =>
      rw [ofJson, value?, memberValues?_ofMembers h, Option.map_some, ofMembers_of_pairwise sorted]

theorem values?_ofItems : ∀ {items : List Json}, (∀ v ∈ items, v.IsOrdered) →
    values? (ofItems items) = some items
  | [], _ => rfl
  | v :: rest, h => by
    obtain ⟨hv, hrest⟩ := List.forall_mem_cons.1 h
    rw [ofItems, values?, value?_ofJson hv, values?_ofItems hrest]
    rfl

theorem memberValues?_ofMembers : ∀ {members : List (String × Json)},
    (∀ e ∈ members, e.2.IsOrdered) → memberValues? (ofMembers members) = some members
  | [], _ => rfl
  | (key, v) :: rest, h => by
    obtain ⟨hv, hrest⟩ := List.forall_mem_cons.1 h
    rw [ofMembers, memberValues?, value?_ofJson hv, memberValues?_ofMembers hrest]
    rfl

end

end Tree

/-! ### Plain values -/

/-- A value that its text denotes: an ordered one without floats, nested no deeper than `n`. -/
structure IsPlain (n : Nat) (v : Json) : Prop where
  integral : v.IsIntegral
  ordered : v.IsOrdered
  depth : (Tree.ofJson v).depth ≤ n

variable {n : Nat}

lemma isPlain_string (s : String) : (Json.string s).IsPlain n :=
  ⟨.string s, .string s, Nat.zero_le n⟩

lemma isPlain_array {items : List Json} (h : ∀ v ∈ items, v.IsPlain n) :
    (Json.array items).IsPlain (n + 1) where
  integral := .array fun v hv => (h v hv).integral
  ordered := .array fun v hv => (h v hv).ordered
  depth := by
    refine Nat.succ_le_succ ?_
    induction items with
    | nil => exact Nat.zero_le n
    | cons v rest ih =>
      obtain ⟨hv, hrest⟩ := List.forall_mem_cons.1 h
      exact Nat.max_le.2 ⟨hv.depth, ih hrest⟩

lemma isPlain_strings (items : List String) : (Json.strings items).IsPlain (n + 1) := by
  apply isPlain_array
  intro v hv
  obtain ⟨s, -, rfl⟩ := List.mem_map.1 hv
  exact isPlain_string s

lemma isPlain_object {members : List (String × Json)} (keys : List String)
    (hkeys : members.map Prod.fst = keys) (sorted : keys.Pairwise (· < ·))
    (h : ∀ e ∈ members, e.2.IsPlain n) : (Json.object members).IsPlain (n + 1) where
  integral := .object fun e he => (h e he).integral
  ordered := .object (List.pairwise_map.1 (hkeys ▸ sorted)) fun e he => (h e he).ordered
  depth := by
    clear hkeys
    refine Nat.succ_le_succ ?_
    induction members with
    | nil => exact Nat.zero_le n
    | cons e rest ih =>
      obtain ⟨he, hrest⟩ := List.forall_mem_cons.1 h
      exact Nat.max_le.2 ⟨he.depth, ih hrest⟩

lemma isPlain_member (key : String) {v : Json} (h : v.IsPlain n) :
    (Json.object [(key, v)]).IsPlain (n + 1) :=
  isPlain_object [key] rfl (List.pairwise_singleton _ _) (List.forall_mem_singleton.2 h)

/-- The text of a plain value denotes it. -/
theorem IsPlain.parse?_render {v : Json} (h : v.IsPlain maxDepth) : parse? v.render = some v := by
  rw [parse?, Json.parse?_render h.integral, Option.bind_some, Tree.json?, guard, if_pos h.depth]
  exact Tree.value?_ofJson h.ordered

end Json

end BucketOperator
