import BucketOperator.Json.Parser
import BucketOperator.Json.Printer
import Mathlib.Data.List.TakeDrop
import Mathlib.Data.Nat.Digits.Lemmas

/-!
# Written values are read back

The text of a value whose numbers are integers of 64 bits is the text of one document, the one that
writes the value. Reading goes over the text once: what is written for a part of a value is taken
off the front of any text that goes on with a delimiter.
-/

namespace BucketOperator.Json

/-! ### Strings -/

/-- An escape of a character that is no half of a surrogate pair. -/
lemma stringBody?_unit {a b c d : Char} {n : Nat} (h : unit? a b c d = some n) (hn : n < 0xD800)
    (rest : List Char) :
    stringBody? ('\\' :: 'u' :: a :: b :: c :: d :: rest) =
      (stringBody? rest).map (consChar (Char.ofNat n)) := by
  have hhigh : ¬ 0xD800 ≤ n := by omega
  have hlow : ¬ 0xDC00 ≤ n := by omega
  by_cases hpair : ∃ a' b' c' d' more, rest = '\\' :: 'u' :: a' :: b' :: c' :: d' :: more
  · obtain ⟨a', b', c', d', more, rfl⟩ := hpair
    rw [stringBody?, h]
    simp only [Option.bind_eq_bind, Option.bind_some, hhigh, hlow, false_and, if_false,
      Option.map_eq_bind]
    rfl
  · rw [stringBody?, h]
    · simp only [Option.bind_eq_bind, Option.bind_some, hhigh, false_and, if_false,
        Option.map_eq_bind]
      rfl
    · intro a' b' c' d' more hrest
      exact hpair ⟨a', b', c', d', more, hrest⟩

/-- An escape by one letter. -/
lemma stringBody?_short {c e : Char} (h : shortEscape? c = some e) (hu : c ≠ 'u')
    (rest : List Char) :
    stringBody? ('\\' :: c :: rest) = (stringBody? rest).map (consChar e) := by
  rw [stringBody?, h]
  · rw [Option.map_eq_bind]
    rfl
  · exact fun _ _ _ _ _ _ _ _ _ hc => absurd hc hu
  · exact fun _ _ _ _ _ hc => absurd hc hu

/-- A character that stands for itself. -/
lemma stringBody?_plain {c : Char} (hquote : c ≠ '"') (hslash : c ≠ '\\') (hc : 0x20 ≤ c.toNat)
    (rest : List Char) : stringBody? (c :: rest) = (stringBody? rest).map (consChar c) := by
  rw [stringBody?]
  · have hkept : (decide (0x20 ≤ c.toNat) && c != '\\') = true := by simp [hc, hslash]
    rw [hkept, Option.map_eq_bind]
    rfl
  · exact hquote
  · exact fun _ _ _ _ _ _ _ _ _ h => absurd h hslash
  · exact fun _ _ _ _ _ h => absurd h hslash
  · exact fun _ _ h => absurd h hslash

lemma unit?_hexChar {n : Nat} (h : n < 0x20) :
    unit? '0' '0' (hexChar (n / 16)) (hexChar (n % 16)) = some n := by
  have hall : ∀ n : Fin 0x20,
      unit? '0' '0' (hexChar (n.val / 16)) (hexChar (n.val % 16)) = some n.val := by decide
  exact hall ⟨n, h⟩

lemma stringBody?_escapeChar (c : Char) (rest : List Char) :
    stringBody? (escapeChar c ++ rest) = (stringBody? rest).map (consChar c) := by
  unfold escapeChar
  split
  iterate 7 exact stringBody?_short rfl (by decide) rest
  rename_i hquote hslash _ _ _ _ _
  split
  · rename_i hcontrol
    have hread := stringBody?_unit (unit?_hexChar hcontrol) (by omega) rest
    rwa [Char.ofNat_toNat] at hread
  · rename_i hcontrol
    exact stringBody?_plain hquote hslash (by omega) rest

/-- What is written of a text is read back up to the closing quote. -/
lemma stringBody?_flatMap_escapeChar (cs rest : List Char) :
    stringBody? (cs.flatMap escapeChar ++ '"' :: rest) = some (some cs, rest) := by
  induction cs with
  | nil => rw [List.flatMap_nil, List.nil_append, stringBody?]
  | cons c cs ih =>
    rw [List.flatMap_cons, List.append_assoc, stringBody?_escapeChar, ih]
    rfl

lemma quoted?_quote (s : String) (rest : List Char) :
    quoted? (s.toList.flatMap escapeChar ++ '"' :: rest) = some (some s, rest) := by
  rw [quoted?, stringBody?_flatMap_escapeChar]
  simp

/-! ### Integers -/

/-- Whether a text goes on with nothing that could belong to a number. -/
def IsDelimited : List Char → Prop
  | [] => True
  | c :: _ => c.isDigit = false ∧ c ≠ '.' ∧ c ≠ 'e' ∧ c ≠ 'E'

lemma spanDigits_append {ds rest : List Char} (hds : ∀ d ∈ ds, d.isDigit = true)
    (hrest : IsDelimited rest) : spanDigits (ds ++ rest) = (ds, rest) := by
  have hstop : rest.takeWhile Char.isDigit = [] ∧ rest.dropWhile Char.isDigit = rest := by
    cases rest with
    | nil => exact ⟨rfl, rfl⟩
    | cons c rest => simp [hrest.1]
  rw [spanDigits, List.span_eq_takeWhile_dropWhile, List.takeWhile_append_of_pos hds,
    List.dropWhile_append_of_pos hds, hstop.1, hstop.2, List.append_nil]

lemma fraction?_of_isDelimited {rest : List Char} (h : IsDelimited rest) :
    fraction? rest = some (none, rest) := by
  unfold fraction?
  split
  · exact absurd rfl h.2.1
  · rfl

lemma exponent?_of_isDelimited {rest : List Char} (h : IsDelimited rest) :
    exponent? rest = some (none, rest) := by
  cases rest with
  | nil => rfl
  | cons c rest =>
    obtain ⟨-, -, he, hE⟩ := h
    simp [exponent?, he, hE]

lemma digitsValue_eq (ds : List Char) : digitsValue ds = Nat.ofDigitChars 10 ds 0 := by
  simp only [digitsValue, Nat.ofDigitChars, Nat.mul_comm]

lemma digitsValue_toDigits (n : Nat) : digitsValue (Nat.toDigits 10 n) = n := by
  rw [digitsValue_eq, Nat.ofDigitChars_toDigits (by decide) (by decide)]

/-- The digits of a number begin with a zero only if it is zero. -/
lemma head?_toDigits {n : Nat} (hn : n ≠ 0) : (Nat.toDigits 10 n).head? ≠ some '0' := by
  induction n using Nat.strong_induction_on with
  | _ n ih =>
    by_cases hsmall : n < 10
    · rw [Nat.toDigits_of_lt_base hsmall]
      interval_cases n <;> simp_all
    · rw [Nat.toDigits_of_base_le (by decide) (by omega),
        List.head?_append_of_ne_nil _ Nat.toDigits_ne_nil]
      exact ih (n / 10) (by omega) (by omega)

lemma isDigit_of_mem_toDigits {n : Nat} {d : Char} (hd : d ∈ Nat.toDigits 10 n) :
    d.isDigit = true :=
  Nat.isDigit_of_mem_toDigits (by decide) (by decide) hd

lemma exists_toDigits_eq (n : Nat) : ∃ d ds, Nat.toDigits 10 n = d :: ds ∧ d.isDigit = true := by
  obtain ⟨d, ds, hds⟩ := List.exists_cons_of_ne_nil (Nat.toDigits_ne_nil (n := n) (b := 10))
  exact ⟨d, ds, hds, isDigit_of_mem_toDigits (hds ▸ List.mem_cons_self)⟩

/-- The digits of a number are read as a magnitude. -/
lemma magnitude?_toDigits (negative : Bool) (n : Nat) {rest : List Char} (h : IsDelimited rest) :
    magnitude? negative (Nat.toDigits 10 n ++ rest) =
      some (.number (literalNumber negative (Nat.toDigits 10 n) none none), rest) := by
  have hdigits : ∀ d ∈ Nat.toDigits 10 n, d.isDigit = true := fun d => isDigit_of_mem_toDigits
  have hform : (Nat.toDigits 10 n != [] &&
      ((Nat.toDigits 10 n).head? != some '0' || (Nat.toDigits 10 n).length == 1)) = true := by
    have hne : Nat.toDigits 10 n ≠ [] := Nat.toDigits_ne_nil
    by_cases hn : n = 0
    · subst hn
      decide
    · simp [hne, head?_toDigits hn]
  rw [magnitude?, spanDigits_append hdigits h]
  simp [hform, fraction?_of_isDelimited h, exponent?_of_isDelimited h]

/-- The integers of 64 bits, signed or not. -/
def IsWord (n : Int) : Prop := -2 ^ 63 ≤ n ∧ n < 2 ^ 64

lemma literalNumber_nonneg {n : Nat} (h : n < 2 ^ 64) :
    literalNumber false (Nat.toDigits 10 n) none none = some (.integer n) := by
  have hmax : n ≤ maxUnsigned := by
    have : maxUnsigned = 2 ^ 64 - 1 := rfl
    omega
  simp only [literalNumber, digitsValue_toDigits]
  simp [hmax]

lemma literalNumber_neg {n : Nat} (hpos : n ≠ 0) (h : n ≤ 2 ^ 63) :
    literalNumber true (Nat.toDigits 10 n) none none = some (.integer (-n)) := by
  have hmin : n ≤ Nat.pow 2 63 := h
  simp only [literalNumber, digitsValue_toDigits]
  simp [hpos, hmin]

/-! ### Values -/

/-- Whether all numbers of a value are integers of 64 bits. -/
inductive IsIntegral : Json → Prop where
  | null : IsIntegral .null
  | bool (b : Bool) : IsIntegral (.bool b)
  | number {n : Int} (h : IsWord n) : IsIntegral (.number (.integer n))
  | string (s : String) : IsIntegral (.string s)
  | array {items : List Json} (h : ∀ v ∈ items, IsIntegral v) : IsIntegral (.array items)
  | object {members : List (String × Json)} (h : ∀ e ∈ members, IsIntegral e.2) :
    IsIntegral (.object members)

lemma skipBlanks_cons {c : Char} (h : isBlank c = false) (cs : List Char) :
    skipBlanks (c :: cs) = c :: cs := by
  rw [skipBlanks, List.dropWhile_cons_of_neg (by simp [h])]

lemma isBlank_of_isDigit {d : Char} (hd : d.isDigit = true) : isBlank d = false := by
  cases h : isBlank d with
  | false => rfl
  | true =>
    simp only [isBlank, Bool.or_eq_true, beq_iff_eq] at h
    rcases h with ((rfl | rfl) | rfl) | rfl <;> cases hd

/-- A digit is none of the characters that other values begin with. -/
lemma parseValue?_digit {d : Char} (hd : d.isDigit = true) (fuel : Nat) (cs : List Char) :
    parseValue? (fuel + 1) (d :: cs) = magnitude? false (d :: cs) := by
  rw [parseValue?, skipBlanks_cons (isBlank_of_isDigit hd)]
  split
  all_goals first | rfl | (rename_i heq; cases heq; cases hd)

lemma toList_render_integer (n : Int) : (Number.integer n).render.toList =
    if 0 ≤ n then Nat.toDigits 10 n.natAbs else '-' :: Nat.toDigits 10 n.natAbs := by
  cases n with
  | ofNat n => exact Nat.toList_repr
  | negSucc n =>
    have hrender : (Number.integer (.negSucc n)).render = "-" ++ (n + 1).repr := rfl
    rw [hrender, String.toList_append, Nat.toList_repr, if_neg (by omega)]
    rfl

lemma parseValue?_integer {n : Int} (h : IsWord n) (fuel : Nat) {rest : List Char}
    (hrest : IsDelimited rest) :
    parseValue? (fuel + 1) ((Number.integer n).render.toList ++ rest) =
      some (.number (some (.integer n)), rest) := by
  obtain ⟨hlow, hhigh⟩ := h
  rw [toList_render_integer]
  by_cases hn : 0 ≤ n
  · obtain ⟨d, ds, hds, hd⟩ := exists_toDigits_eq n.natAbs
    have hread := magnitude?_toDigits false n.natAbs hrest
    rw [literalNumber_nonneg (by omega), Int.natAbs_of_nonneg hn] at hread
    rw [if_pos hn]
    rw [hds] at hread ⊢
    rw [List.cons_append, parseValue?_digit hd, ← List.cons_append, hread]
  · have hread := magnitude?_toDigits true n.natAbs hrest
    have habs : -(n.natAbs : Int) = n := by omega
    rw [literalNumber_neg (by omega) (by omega), habs] at hread
    rw [if_neg hn, List.cons_append, parseValue?, skipBlanks_cons (by decide)]
    exact hread

/-- No value begins with a blank or a closing bracket. -/
lemma exists_renderChars_eq {v : Json} (h : v.IsIntegral) :
    ∃ c cs, v.renderChars = c :: cs ∧ isBlank c = false ∧ c ≠ ']' := by
  cases h with
  | null => exact ⟨_, _, rfl, by decide, by decide⟩
  | bool b => cases b <;> exact ⟨_, _, rfl, by decide, by decide⟩
  | @number n h =>
    rw [renderChars, toList_render_integer]
    split
    · obtain ⟨d, ds, hds, hd⟩ := exists_toDigits_eq n.natAbs
      refine ⟨d, ds, hds, isBlank_of_isDigit hd, ?_⟩
      rintro rfl
      cases hd
    · exact ⟨_, _, rfl, by decide, by decide⟩
  | string s => exact ⟨_, _, rfl, by decide, by decide⟩
  | array h => exact ⟨_, _, rfl, by decide, by decide⟩
  | object h => exact ⟨_, _, rfl, by decide, by decide⟩

lemma exists_renderItems_eq {v : Json} (h : v.IsIntegral) (items : List Json) :
    ∃ c cs, renderItems (v :: items) = c :: cs ∧ isBlank c = false ∧ c ≠ ']' := by
  obtain ⟨c, cs, hv, hc⟩ := exists_renderChars_eq h
  cases items with
  | nil => exact ⟨c, cs, by rw [renderItems, hv], hc⟩
  | cons w items => exact ⟨c, _, by rw [renderItems, hv, List.cons_append], hc⟩

lemma exists_renderMembers_eq (e : String × Json) (members : List (String × Json)) :
    ∃ cs, renderMembers (e :: members) = '"' :: cs := by
  cases members <;> exact ⟨_, rfl⟩

lemma isDelimited_comma (cs : List Char) : IsDelimited (',' :: cs) := by
  simp [IsDelimited]

lemma isDelimited_bracket (cs : List Char) : IsDelimited (']' :: cs) := by
  simp [IsDelimited]

lemma isDelimited_brace (cs : List Char) : IsDelimited ('}' :: cs) := by
  simp [IsDelimited]

section Steps

variable {fuel : Nat} {tree : Tree} {items : List Tree} {members : List (Option String × Tree)}
  {k : String} {c : Char} {cs cs' rest : List Char}

lemma parseValue?_array (hc : isBlank c = false) (hbracket : c ≠ ']')
    (h : parseItems? fuel (c :: cs) = some (items, rest)) :
    parseValue? (fuel + 1) ('[' :: c :: cs) = some (.array items, rest) := by
  rw [parseValue?, skipBlanks_cons (by decide)]
  simp only [skipBlanks_cons hc]
  split
  · rename_i heq
    cases heq
    exact absurd rfl hbracket
  · rw [h]
    rfl

lemma parseValue?_object (h : parseMembers? fuel ('"' :: cs) = some (members, rest)) :
    parseValue? (fuel + 1) ('{' :: '"' :: cs) = some (.object members, rest) := by
  have hquote : isBlank '"' = false := rfl
  rw [parseValue?, skipBlanks_cons (by decide)]
  simp only [skipBlanks_cons hquote]
  split
  · rename_i heq
    cases heq
  · rw [h]
    rfl

lemma parseItems?_last (h : parseValue? fuel cs = some (tree, ']' :: rest)) :
    parseItems? (fuel + 1) cs = some ([tree], rest) := by
  rw [parseItems?, h]
  rfl

lemma parseItems?_more (h : parseValue? fuel cs = some (tree, ',' :: cs'))
    (hmore : parseItems? fuel cs' = some (items, rest)) :
    parseItems? (fuel + 1) cs = some (tree :: items, rest) := by
  have hcomma : isBlank ',' = false := rfl
  rw [parseItems?, h]
  simp only [Option.bind_eq_bind, Option.bind_some, skipBlanks_cons hcomma, hmore]
  rfl

lemma parseMembers?_last (h : parseValue? fuel cs = some (tree, '}' :: rest)) :
    parseMembers? (fuel + 1) (quote k ++ ':' :: cs) = some ([(some k, tree)], rest) := by
  have hcolon : isBlank ':' = false := rfl
  rw [quote, List.cons_append, List.append_assoc, List.singleton_append, parseMembers?,
    skipBlanks_cons (by decide)]
  simp only [quoted?_quote, Option.bind_eq_bind, Option.bind_some, skipBlanks_cons hcolon, h]
  rfl

lemma parseMembers?_more (h : parseValue? fuel cs = some (tree, ',' :: cs'))
    (hmore : parseMembers? fuel cs' = some (members, rest)) :
    parseMembers? (fuel + 1) (quote k ++ ':' :: cs) = some ((some k, tree) :: members, rest) := by
  have hcolon : isBlank ':' = false := rfl
  have hcomma : isBlank ',' = false := rfl
  rw [quote, List.cons_append, List.append_assoc, List.singleton_append, parseMembers?,
    skipBlanks_cons (by decide)]
  simp only [quoted?_quote, Option.bind_eq_bind, Option.bind_some, skipBlanks_cons hcolon, h,
    skipBlanks_cons hcomma, hmore]
  rfl

end Steps

-- The fuel is twice the length of the text: one unit for each value and one for each item or
-- member, and there is a character of its own for each.
mutual

/-- A written value is taken off the front of a text. -/
theorem parseValue?_renderChars : ∀ {v : Json}, v.IsIntegral → ∀ {fuel : Nat} {rest : List Char},
    2 * v.renderChars.length ≤ fuel → IsDelimited rest →
    parseValue? fuel (v.renderChars ++ rest) = some (Tree.ofJson v, rest)
  | v, h, 0, _, hfuel, _ => by
    obtain ⟨c, cs, hv, -⟩ := exists_renderChars_eq h
    rw [hv] at hfuel
    cases hfuel
  | .null, _, fuel + 1, rest, _, _ => rfl
  | .bool true, _, fuel + 1, rest, _, _ => rfl
  | .bool false, _, fuel + 1, rest, _, _ => rfl
  | .number n, h, fuel + 1, rest, _, hrest => by
    cases h with
    | number h => exact parseValue?_integer h fuel hrest
  | .string s, _, fuel + 1, rest, _, _ => by
    rw [renderChars, quote, List.cons_append, List.append_assoc, parseValue?,
      skipBlanks_cons (by decide)]
    simp only [List.singleton_append, quoted?_quote]
    rfl
  | .array [], _, fuel + 1, rest, _, _ => rfl
  | .array (v :: items), h, fuel + 1, rest, hfuel, _ => by
    cases h with
    | array h =>
      obtain ⟨c, cs, hitems, hblank, hbracket⟩ :=
        exists_renderItems_eq (h v List.mem_cons_self) items
      simp only [renderChars, List.length_cons, List.length_append] at hfuel
      have hread : parseItems? fuel (renderItems (v :: items) ++ ']' :: rest) = _ :=
        parseItems?_renderItems h (List.cons_ne_nil _ _) (by omega)
      rw [hitems, List.cons_append] at hread
      rw [renderChars, hitems, List.cons_append, List.append_assoc]
      exact parseValue?_array hblank hbracket hread
  | .object [], _, fuel + 1, rest, _, _ => rfl
  | .object (e :: members), h, fuel + 1, rest, hfuel, _ => by
    cases h with
    | object h =>
      obtain ⟨cs, hmembers⟩ := exists_renderMembers_eq e members
      simp only [renderChars, List.length_cons, List.length_append] at hfuel
      have hread : parseMembers? fuel (renderMembers (e :: members) ++ '}' :: rest) = _ :=
        parseMembers?_renderMembers h (List.cons_ne_nil _ _) (by omega)
      rw [hmembers, List.cons_append] at hread
      rw [renderChars, hmembers, List.cons_append, List.append_assoc]
      exact parseValue?_object hread

/-- Written items are read up to the closing bracket. -/
theorem parseItems?_renderItems : ∀ {items : List Json}, (∀ v ∈ items, v.IsIntegral) →
    ∀ {fuel : Nat} {rest : List Char}, items ≠ [] → 2 * (renderItems items).length + 1 ≤ fuel →
    parseItems? fuel (renderItems items ++ ']' :: rest) = some (Tree.ofItems items, rest)
  | [], _, _, _, hne, _ => absurd rfl hne
  | _ :: _, _, 0, _, _, hfuel => by cases hfuel
  | [v], h, fuel + 1, rest, _, hfuel => by
    rw [renderItems] at hfuel ⊢
    exact parseItems?_last (parseValue?_renderChars (h v List.mem_cons_self) (by omega)
      (isDelimited_bracket rest))
  | v :: w :: items, h, fuel + 1, rest, _, hfuel => by
    obtain ⟨hv, hitems⟩ := List.forall_mem_cons.1 h
    simp only [renderItems, List.length_append, List.length_cons] at hfuel
    rw [renderItems, List.append_assoc]
    exact parseItems?_more (parseValue?_renderChars hv (by omega) (isDelimited_comma _))
      (parseItems?_renderItems hitems (List.cons_ne_nil _ _) (by omega))

/-- Written members are read up to the closing brace. -/
theorem parseMembers?_renderMembers : ∀ {members : List (String × Json)},
    (∀ e ∈ members, e.2.IsIntegral) →
    ∀ {fuel : Nat} {rest : List Char}, members ≠ [] →
    2 * (renderMembers members).length + 1 ≤ fuel →
    parseMembers? fuel (renderMembers members ++ '}' :: rest) =
      some (Tree.ofMembers members, rest)
  | [], _, _, _, hne, _ => absurd rfl hne
  | _ :: _, _, 0, _, _, hfuel => by cases hfuel
  | [(k, v)], h, fuel + 1, rest, _, hfuel => by
    simp only [renderMembers, List.length_append, List.length_cons] at hfuel
    have hv : v.IsIntegral := h (k, v) List.mem_cons_self
    rw [renderMembers, List.append_assoc]
    exact parseMembers?_last (parseValue?_renderChars hv (by omega) (isDelimited_brace rest))
  | (k, v) :: e :: members, h, fuel + 1, rest, _, hfuel => by
    have hv : v.IsIntegral := h (k, v) List.mem_cons_self
    have hmembers := (List.forall_mem_cons.1 h).2
    simp only [renderMembers, List.length_append, List.length_cons] at hfuel
    rw [renderMembers, List.append_assoc, List.cons_append, List.append_assoc]
    exact parseMembers?_more (parseValue?_renderChars hv (by omega) (isDelimited_comma _))
      (parseMembers?_renderMembers hmembers (List.cons_ne_nil _ _) (by omega))

end

/-- The text of a value is the text of the document that writes it. -/
theorem parse?_render {v : Json} (h : v.IsIntegral) :
    Tree.parse? v.render = some (Tree.ofJson v) := by
  have hread : parseValue? (2 * v.renderChars.length + 2) (v.renderChars ++ []) = _ :=
    parseValue?_renderChars h (by omega) trivial
  rw [List.append_nil] at hread
  rw [Tree.parse?, render, String.toList_ofList, hread]
  rfl

end BucketOperator.Json
