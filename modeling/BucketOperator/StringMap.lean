/-!
# Finite maps keyed by strings

Entries are kept in strictly increasing key order, by code points, so two maps with the same
entries are equal and listing a map needs no further sorting.
-/

namespace BucketOperator

/-- Put an entry at its place in a sorted list, replacing an entry with the same key. -/
def insertEntry {α : Type} (key : String) (value : α) : List (String × α) → List (String × α)
  | [] => [(key, value)]
  | (k, v) :: rest =>
    if key < k then (key, value) :: (k, v) :: rest
    else if key = k then (key, value) :: rest
    else (k, v) :: insertEntry key value rest

/-- A finite map from strings. -/
structure StringMap (α : Type) where
  entries : List (String × α)
  sorted : entries.Pairwise fun a b => a.1 < b.1

section InsertEntry

variable {α : Type} {key k : String} {value : α} {l : List (String × α)}

theorem mem_insertEntry {e : String × α} (h : e ∈ insertEntry key value l) :
    e = (key, value) ∨ e ∈ l := by
  induction l with
  | nil => simpa [insertEntry] using h
  | cons a rest ih =>
    obtain ⟨k, v⟩ := a
    simp only [insertEntry] at h
    split at h
    · simpa using h
    · split at h
      · rcases List.mem_cons.1 h with h | h
        · exact .inl h
        · exact .inr (List.mem_cons_of_mem _ h)
      · rcases List.mem_cons.1 h with h | h
        · exact .inr (h ▸ List.mem_cons_self)
        · exact (ih h).imp_right (List.mem_cons_of_mem _)

theorem insertEntry_sorted (h : l.Pairwise fun a b => a.1 < b.1) :
    (insertEntry key value l).Pairwise fun a b => a.1 < b.1 := by
  induction l with
  | nil => simp [insertEntry]
  | cons a rest ih =>
    obtain ⟨k, v⟩ := a
    obtain ⟨hk, hrest⟩ := List.pairwise_cons.1 h
    simp only [insertEntry]
    split
    · rename_i hlt
      refine List.pairwise_cons.2 ⟨fun e he => ?_, h⟩
      rcases List.mem_cons.1 he with rfl | he
      · exact hlt
      · exact String.lt_trans hlt (hk e he)
    · split
      · rename_i heq
        subst heq
        exact List.pairwise_cons.2 ⟨hk, hrest⟩
      · rename_i hlt hne
        refine List.pairwise_cons.2 ⟨fun e he => ?_, ih hrest⟩
        rcases mem_insertEntry he with rfl | he
        · exact Std.lt_of_le_of_ne (Std.not_lt.1 hlt) (Ne.symm hne)
        · exact hk e he

theorem lookup_insertEntry :
    (insertEntry key value l).lookup k = if k = key then some value else l.lookup k := by
  by_cases h : k = key
  · subst h
    induction l with
    | nil => simp [insertEntry]
    | cons a rest ih =>
      obtain ⟨k', v⟩ := a
      simp only [insertEntry, if_true] at ih ⊢
      split
      · simp
      · split
        · simp
        · rename_i hne
          simp [List.lookup_cons, beq_eq_false_iff_ne.2 hne, ih]
  · have hk : (k == key) = false := beq_eq_false_iff_ne.2 h
    induction l with
    | nil => simp [insertEntry, List.lookup_cons, hk, h]
    | cons a rest ih =>
      obtain ⟨k', v⟩ := a
      simp only [insertEntry, h, if_false] at ih ⊢
      split
      · simp [List.lookup_cons, hk]
      · split
        · rename_i heq
          subst heq
          simp [List.lookup_cons, hk]
        · simp [List.lookup_cons, ih]

end InsertEntry

theorem lookup_filter_key {α : Type} (keep : String → Bool) (k : String)
    (l : List (String × α)) :
    (l.filter fun e => keep e.1).lookup k = if keep k then l.lookup k else none := by
  induction l with
  | nil => simp
  | cons a rest ih =>
    obtain ⟨key, value⟩ := a
    by_cases hk : k = key
    · subst hk
      cases h : keep k with
      | true => simp [h]
      | false => simpa [h] using ih
    · have hne : (k == key) = false := beq_eq_false_iff_ne.2 hk
      cases h : keep key with
      | true => simpa [h, List.lookup_cons, hne] using ih
      | false => simpa [h, List.lookup_cons, hne] using ih

namespace StringMap

variable {α β : Type}

instance [DecidableEq α] : DecidableEq (StringMap α) := fun a b =>
  decidable_of_iff (a.entries = b.entries)
    ⟨fun h => by cases a; cases b; simp_all, fun h => h ▸ rfl⟩

/-- The map without entries. -/
def empty : StringMap α := ⟨[], .nil⟩

instance : Inhabited (StringMap α) := ⟨empty⟩

/-- The value at a key. -/
def get? (m : StringMap α) (key : String) : Option α :=
  m.entries.lookup key

/-- The map with a value set at a key. -/
def insert (m : StringMap α) (key : String) (value : α) : StringMap α :=
  ⟨insertEntry key value m.entries, insertEntry_sorted m.sorted⟩

/-- The entries in increasing key order. -/
def toList (m : StringMap α) : List (String × α) := m.entries

def isEmpty (m : StringMap α) : Bool := m.entries.isEmpty

def size (m : StringMap α) : Nat := m.entries.length

/-- Set the listed entries one after the other, so the last one of a key wins. -/
def insertAll (m : StringMap α) (entries : List (String × α)) : StringMap α :=
  entries.foldl (fun m e => m.insert e.1 e.2) m

/-- The map of the listed entries; the last one of a key wins. -/
def ofList (entries : List (String × α)) : StringMap α :=
  empty.insertAll entries

/-- The entries that satisfy a test. -/
def filter (m : StringMap α) (keep : String → α → Bool) : StringMap α :=
  ⟨m.entries.filter fun e => keep e.1 e.2, m.sorted.filter _⟩

/-- The map without an entry at a key. -/
def erase (m : StringMap α) (key : String) : StringMap α := m.filter fun k _ => k != key

/-! ### Lookups -/

@[ext]
theorem ext_entries {m n : StringMap α} (h : m.entries = n.entries) : m = n := by
  cases m; cases n; simp_all

@[simp]
theorem get?_empty (key : String) : (empty : StringMap α).get? key = none := rfl

@[simp]
theorem get?_insert (m : StringMap α) (key k : String) (value : α) :
    (m.insert key value).get? k = if k = key then some value else m.get? k :=
  lookup_insertEntry

@[simp]
theorem get?_filter_key (m : StringMap α) (keep : String → Bool) (k : String) :
    (m.filter fun key _ => keep key).get? k = if keep k then m.get? k else none :=
  lookup_filter_key keep k m.entries

end StringMap

end BucketOperator
