import BucketOperator.Json.Reading
import Mathlib.Data.List.Forall2
import Mathlib.Data.Option.Basic

/-!
# Documents that differ in one place

Two objects may be the same but for the values of the members of one name. A reader that does not
use this name reads the same from both, and what others read differs there alone.
-/

namespace BucketOperator

/-! ### Optional values that are related -/

section Relations

variable {α β γ δ : Type} {P : α → β → Prop} {Q : γ → δ → Prop}

lemma rel_refl {S : α → α → Prop} (hS : ∀ a, S a a) : ∀ a : Option α, Option.Rel S a a
  | none => .none
  | some a => .some (hS a)

lemma rel_eq_iff {a a' : Option α} : Option.Rel Eq a a' ↔ a = a' := by
  cases a <;> cases a' <;> simp

lemma rel_mono {P' : α → β → Prop} {a : Option α} {b : Option β} (h : Option.Rel P a b)
    (hP : ∀ x y, P x y → P' x y) : Option.Rel P' a b := by
  cases h with
  | none => exact .none
  | some h => exact .some (hP _ _ h)

lemma rel_bind {a : Option α} {b : Option β} {f : α → Option γ} {g : β → Option δ}
    (h : Option.Rel P a b) (hf : ∀ x y, P x y → Option.Rel Q (f x) (g y)) :
    Option.Rel Q (a.bind f) (b.bind g) := by
  cases h with
  | none => exact .none
  | some h => exact hf _ _ h

lemma rel_bind_self {a : Option α} {f : α → Option γ} {g : α → Option δ}
    (h : ∀ x, Option.Rel Q (f x) (g x)) : Option.Rel Q (a.bind f) (a.bind g) := by
  cases a with
  | none => exact .none
  | some x => exact h x

lemma rel_map {a : Option α} {b : Option β} {f : α → γ} {g : β → δ} (h : Option.Rel P a b)
    (hf : ∀ x y, P x y → Q (f x) (g y)) : Option.Rel Q (a.map f) (b.map g) := by
  cases h with
  | none => exact .none
  | some h => exact .some (hf _ _ h)

lemma rel_mapM {l : List α} {l' : List β} {f : α → Option γ} {g : β → Option δ}
    (h : List.Forall₂ P l l') (hf : ∀ x y, P x y → Option.Rel Q (f x) (g y)) :
    Option.Rel (List.Forall₂ Q) (l.mapM f) (l'.mapM g) := by
  induction h with
  | nil => exact .some .nil
  | cons hxy _ ih =>
    rw [List.mapM_cons, List.mapM_cons]
    refine rel_bind (hf _ _ hxy) fun a b hab => ?_
    exact rel_bind ih fun as bs habs => .some (.cons hab habs)

end Relations

/-! ### Entries and maps -/

/-- Entries are the same, or have both one key, and values that are related. -/
def AlikeAt {κ α : Type} (key : κ) (R : α → α → Prop) (e e' : κ × α) : Prop :=
  e = e' ∨ e.1 = key ∧ e'.1 = key ∧ R e.2 e'.2

section Entries

variable {κ α : Type} {key : κ} {R : α → α → Prop} {e e' : κ × α} {l l' : List (κ × α)}

lemma AlikeAt.key_eq (h : AlikeAt key R e e') : e.1 = e'.1 := by
  rcases h with rfl | ⟨h, h', -⟩
  · rfl
  · rw [h, h']

lemma AlikeAt.eq_of_ne (h : AlikeAt key R e e') (hne : e.1 ≠ key) : e = e' := by
  rcases h with rfl | ⟨h, -⟩
  · rfl
  · exact absurd h hne

/-- Entries kept by their keys stay side by side. -/
lemma forall₂_filter (keep : κ → Bool) (h : List.Forall₂ (AlikeAt key R) l l') :
    List.Forall₂ (AlikeAt key R) (l.filter fun e => keep e.1) (l'.filter fun e => keep e.1) := by
  refine List.rel_filter (fun e e' he => ?_) h
  change keep e.1 = true ↔ keep e'.1 = true
  rw [he.key_eq]

/-- Entries kept by their keys, none of which is the one where they differ, are the same. -/
lemma filter_eq_of_alikeAt (keep : κ → Bool) (h : List.Forall₂ (AlikeAt key R) l l')
    (hkey : keep key = false) :
    (l.filter fun e => keep e.1) = l'.filter fun e => keep e.1 := by
  induction h with
  | nil => rfl
  | @cons e e' _ _ he _ ih =>
    rw [List.filter_cons, List.filter_cons, ih, he.key_eq]
    split
    next hkeep =>
      rw [he.eq_of_ne]
      rintro rfl
      rw [← he.key_eq, hkey] at hkeep
      cases hkeep
    · rfl

end Entries

/-- Two maps differ at one key at most, where their values are related. -/
structure StringMap.Alike {α : Type} (key : String) (R : α → α → Prop) (m m' : StringMap α) :
    Prop where
  others : ∀ k, k ≠ key → m.get? k = m'.get? k
  there : Option.Rel R (m.get? key) (m'.get? key)

lemma StringMap.alike_insertAll {α : Type} {key : String} {R : α → α → Prop}
    {entries entries' : List (String × α)} {m m' : StringMap α} (hR : ∀ a, R a a)
    (h : List.Forall₂ (AlikeAt key R) entries entries') (hm : m.Alike key R m') :
    (m.insertAll entries).Alike key R (m'.insertAll entries') := by
  induction h generalizing m m' with
  | nil => exact hm
  | @cons e e' _ _ he _ ih =>
    refine ih ⟨fun k hk => ?_, ?_⟩
    · rw [StringMap.get?_insert, StringMap.get?_insert, ← he.key_eq, hm.others k hk]
      split
      next heq => rw [he.eq_of_ne fun h => hk (heq.trans h)]
      · rfl
    · rw [StringMap.get?_insert, StringMap.get?_insert, ← he.key_eq]
      split
      · rcases he with rfl | ⟨-, -, hvalues⟩
        · exact .some (hR _)
        · exact .some hvalues
      · exact hm.there

namespace Json.Tree

variable {α : Type} {name : String} {names : List String} {R : Tree → Tree → Prop}
  {S : α → α → Prop} {tree tree' : Tree} {members members' : List (Option String × Tree)}
  {fields fields' : Fields} {read : Tree → Option α}

/-- Two documents are the same, or objects that differ only in the values of the members of one
name, which are related. -/
inductive Alike (name : String) (R : Tree → Tree → Prop) : Tree → Tree → Prop where
  | same (tree : Tree) : Alike name R tree tree
  | object {members members' : List (Option String × Tree)}
      (h : List.Forall₂ (AlikeAt (some name) R) members members') :
      Alike name R (.object members) (.object members')

/-! ### Fields -/

/-- The members that have text for a name. -/
lemma rel_namedMembers (h : List.Forall₂ (AlikeAt (some name) R) members members') :
    Option.Rel (List.Forall₂ (AlikeAt name R))
      (members.mapM fun (key, tree) => do return (← key, tree))
      (members'.mapM fun (key, tree) => do return (← key, tree)) := by
  refine rel_mapM h ?_
  rintro ⟨key, tree⟩ ⟨key', tree'⟩ (heq | ⟨hkey, hkey', hR⟩)
  · cases heq
    exact rel_refl (fun _ => .inl rfl) _
  · cases hkey
    cases hkey'
    exact .some (.inr ⟨rfl, rfl, hR⟩)

lemma knownMembers?_eq (h : List.Forall₂ (AlikeAt (some name) R) members members')
    (hname : names.contains name = false) :
    knownMembers? names members = knownMembers? names members' := by
  refine rel_eq_iff.1 (rel_bind (rel_namedMembers h) fun fields fields' hfields => ?_)
  exact .some (filter_eq_of_alikeAt names.contains hfields hname)

lemma rel_knownMembers? (h : List.Forall₂ (AlikeAt (some name) R) members members') :
    Option.Rel (List.Forall₂ (AlikeAt name R)) (knownMembers? names members)
      (knownMembers? names members') := by
  refine rel_bind (rel_namedMembers h) fun fields fields' hfields => .some ?_
  exact forall₂_filter names.contains hfields

/-- A closed record without a field of the name is read the same. -/
lemma Alike.closedFields?_eq (h : Alike name R tree tree') (hname : names.contains name = false) :
    tree.closedFields? names = tree'.closedFields? names := by
  cases h with
  | same => rfl
  | object h => simp only [closedFields?, knownMembers?_eq h hname]

/-- An open record is read with fields that differ as the documents do. -/
lemma Alike.rel_openFields? (h : Alike name R tree tree') :
    Option.Rel (List.Forall₂ (AlikeAt name R)) (tree.openFields? names)
      (tree'.openFields? names) := by
  cases h with
  | same => exact rel_refl (fun _ => List.forall₂_same.2 fun _ _ => .inl rfl) _
  | object h =>
    exact rel_map (rel_knownMembers? h) fun _ _ hfields => List.forall₂_reverse_iff.2 hfields

lemma filter_fields_eq (h : List.Forall₂ (AlikeAt name R) fields fields') {key : String}
    (hkey : key ≠ name) :
    (fields.filter fun e => e.1 == key) = fields'.filter fun e => e.1 == key :=
  filter_eq_of_alikeAt (· == key) h (beq_eq_false_iff_ne.2 hkey.symm)

lemma optionalAll_eq (h : List.Forall₂ (AlikeAt name R) fields fields') {key : String}
    (hkey : key ≠ name) : fields.optionalAll key read = fields'.optionalAll key read := by
  rw [Fields.optionalAll, Fields.optionalAll, filter_fields_eq h hkey]

/-- What is read of the field where two records differ. -/
lemma rel_optionalAll (h : List.Forall₂ (AlikeAt name R) fields fields') (hS : ∀ a, S a a)
    (hread : ∀ tree tree', R tree tree' →
      Option.Rel (Option.Rel S) (readOption read tree) (readOption read tree')) :
    Option.Rel (Option.Rel S) (fields.optionalAll name read) (fields'.optionalAll name read) := by
  have hfound : List.Forall₂ (AlikeAt name R) (fields.filter fun e => e.1 == name)
      (fields'.filter fun e => e.1 == name) := forall₂_filter (· == name) h
  refine rel_bind (rel_mapM (Q := Option.Rel S) hfound ?_) fun found found' hfound => .some ?_
  · rintro e e' (rfl | ⟨-, -, hR⟩)
    · exact rel_refl (rel_refl hS) _
    · exact hread _ _ hR
  · cases hfound with
    | nil => exact .none
    | cons h _ => exact h

/-- A field that may be null is read alike if it is read alike otherwise. -/
lemma Alike.rel_readOption {P : α → α → Prop} (h : Alike name R tree tree')
    (hread : Option.Rel P (read tree) (read tree')) :
    Option.Rel (Option.Rel P) (readOption read tree) (readOption read tree') := by
  cases h with
  | same tree =>
    cases tree with
    | null => exact .some .none
    | _ => exact rel_map hread fun _ _ => .some
  | object h => exact rel_map hread fun _ _ => .some

/-- What is read of two objects as maps differs at the key where the objects do. -/
lemma Alike.rel_readMap (h : Alike name R tree tree') (hS : ∀ a, S a a)
    (hread : ∀ tree tree', R tree tree' → Option.Rel S (read tree) (read tree')) :
    Option.Rel (StringMap.Alike name S) (readMap read tree) (readMap read tree') := by
  cases h with
  | same => exact rel_refl (fun _ => ⟨fun _ _ => rfl, rel_refl hS _⟩) _
  | object h =>
    refine rel_bind (rel_mapM (Q := AlikeAt name S) h ?_) fun entries entries' hentries => .some ?_
    · rintro ⟨key, tree⟩ ⟨key', tree'⟩ (heq | ⟨hkey, hkey', hR⟩)
      · cases heq
        exact rel_refl (fun _ => .inl rfl) _
      · cases hkey
        cases hkey'
        change Option.Rel _ ((read tree).bind fun value => some (name, value))
          ((read tree').bind fun value => some (name, value))
        exact rel_bind (hread _ _ hR) fun _ _ hvalues => .some (.inr ⟨rfl, rfl, hvalues⟩)
    · exact StringMap.alike_insertAll hS hentries ⟨fun _ _ => rfl, .none⟩

/-! ### Values -/

/-- Documents that denote something both, or neither. -/
def BothDenote (tree tree' : Tree) : Prop := Option.Rel (fun _ _ => True) tree.value? tree'.value?

lemma rel_memberValues? (hR : ∀ tree tree', R tree tree' → BothDenote tree tree')
    (h : List.Forall₂ (AlikeAt (some name) R) members members') :
    Option.Rel (List.Forall₂ (AlikeAt name fun _ _ => True)) (memberValues? members)
      (memberValues? members') := by
  induction h with
  | nil => exact .some .nil
  | @cons e e' rest rest' he _ ih =>
    obtain ⟨key, tree⟩ := e
    obtain ⟨key', tree'⟩ := e'
    obtain rfl : key = key' := he.key_eq
    cases key with
    | none => exact .none
    | some key =>
      rcases he with heq | ⟨hkey, -, hdenote⟩
      · cases heq
        refine rel_bind_self fun value => ?_
        exact rel_bind ih fun _ _ hrest => .some (.cons (.inl rfl) hrest)
      · cases hkey
        refine rel_bind (hR _ _ hdenote) fun _ _ _ => ?_
        exact rel_bind ih fun _ _ hrest => .some (.cons (.inr ⟨rfl, rfl, trivial⟩) hrest)

/-- Two objects of alike members have the same members of other names. -/
lemma get?_ofMembers_eq {entries entries' : List (String × Json)} {key : String}
    (h : List.Forall₂ (AlikeAt name fun _ _ => True) entries entries') (hkey : key ≠ name) :
    (Json.ofMembers entries).get? key = (Json.ofMembers entries').get? key := by
  have hfold : ∀ stored stored' : List (String × Json),
      stored.lookup key = stored'.lookup key →
      (entries.foldl (fun l e => insertEntry e.1 e.2 l) stored).lookup key =
        (entries'.foldl (fun l e => insertEntry e.1 e.2 l) stored').lookup key := by
    induction h with
    | nil => exact fun _ _ h => h
    | @cons e e' _ _ he _ ih =>
      refine fun stored stored' hstored => ih _ _ ?_
      rw [lookup_insertEntry, lookup_insertEntry, ← he.key_eq, hstored]
      split
      next heq => rw [he.eq_of_ne fun h => hkey (heq.trans h)]
      · rfl
  exact hfold [] [] rfl

/-- What two documents denote differs where they do. -/
lemma Alike.rel_value? (h : Alike name R tree tree')
    (hR : ∀ tree tree', R tree tree' → BothDenote tree tree') :
    Option.Rel (fun v v' => ∀ key, key ≠ name → v.get? key = v'.get? key) tree.value?
      tree'.value? := by
  cases h with
  | same => exact rel_refl (fun _ _ _ => rfl) _
  | object h => exact rel_map (rel_memberValues? hR h) fun _ _ hv _ => get?_ofMembers_eq hv

lemma Alike.depth_eq (h : Alike name R tree tree')
    (hR : ∀ tree tree', R tree tree' → tree.depth = tree'.depth) : tree.depth = tree'.depth := by
  cases h with
  | same => rfl
  | object h =>
    rw [depth, depth]
    congr 1
    induction h with
    | nil => rfl
    | @cons e e' _ _ he _ ih =>
      obtain ⟨key, tree⟩ := e
      obtain ⟨key', tree'⟩ := e'
      rw [membersDepth, membersDepth, ih]
      rcases he with heq | ⟨-, -, hdepth⟩
      · cases heq
        rfl
      · rw [hR _ _ hdepth]

/-- The same of what is read in full. -/
lemma Alike.rel_json? (h : Alike name R tree tree')
    (hR : ∀ tree tree', R tree tree' → BothDenote tree tree' ∧ tree.depth = tree'.depth) :
    Option.Rel (fun v v' => ∀ key, key ≠ name → v.get? key = v'.get? key) tree.json?
      tree'.json? := by
  rw [json?, json?, h.depth_eq fun _ _ hdiffer => (hR _ _ hdiffer).2]
  refine rel_bind_self fun _ => ?_
  exact h.rel_value? fun _ _ hdiffer => (hR _ _ hdiffer).1

end Json.Tree

end BucketOperator
