import BucketOperator.Url.Percent
import Mathlib.Algebra.Order.Group.Nat
import Mathlib.Tactic.Common

/-!
# Decoding escaped text

Decoding undoes escaping as long as the text has no escapes of its own. One that has is shorter
when it is decoded.
-/

namespace BucketOperator.Url

/-- The bytes of a text. -/
def utf8 (cs : List Char) : List UInt8 := cs.flatMap String.utf8EncodeChar

@[simp] lemma utf8_nil : utf8 [] = [] := rfl

@[simp] lemma utf8_cons (c : Char) (cs : List Char) :
    utf8 (c :: cs) = String.utf8EncodeChar c ++ utf8 cs := by
  simp [utf8]

@[simp] lemma utf8_append (cs ds : List Char) : utf8 (cs ++ ds) = utf8 cs ++ utf8 ds := by
  simp [utf8]

lemma length_utf8EncodeChar_pos (c : Char) : 0 < (String.utf8EncodeChar c).length := by
  rw [String.length_utf8EncodeChar]
  exact Char.utf8Size_pos c

/-- Text that leaves something out has fewer bytes. -/
lemma eq_or_length_utf8_lt {cs ds : List Char} (h : cs.Sublist ds) :
    cs = ds ∨ (utf8 cs).length < (utf8 ds).length := by
  induction h with
  | slnil => exact .inl rfl
  | cons d _ ih =>
    right
    have hpos := length_utf8EncodeChar_pos d
    rw [utf8_cons, List.length_append]
    rcases ih with rfl | ih <;> omega
  | cons_cons d _ ih =>
    rcases ih with rfl | ih
    · exact .inl rfl
    · right
      rw [utf8_cons, utf8_cons, List.length_append, List.length_append]
      omega

/-! ### Escapes -/

/-- A percent sign and two hexadecimal digits come first. -/
def beginsEscape : List Char → Bool
  | c :: a :: b :: _ => c == '%' && (hexValue? a).isSome && (hexValue? b).isSome
  | _ => false

/-- There is a percent sign with two hexadecimal digits after it. -/
def hasEscape : List Char → Bool
  | [] => false
  | c :: cs => beginsEscape (c :: cs) || hasEscape cs

lemma beginsEscape_iff {cs : List Char} :
    beginsEscape cs = true ↔ ∃ a b rest x y, cs = '%' :: a :: b :: rest ∧
      hexValue? a = some x ∧ hexValue? b = some y := by
  constructor
  · intro h
    unfold beginsEscape at h
    split at h
    · rename_i c a b rest
      simp only [Bool.and_eq_true, beq_iff_eq, Option.isSome_iff_exists] at h
      obtain ⟨⟨rfl, ⟨x, hx⟩⟩, ⟨y, hy⟩⟩ := h
      exact ⟨a, b, rest, x, y, rfl, hx, hy⟩
    · cases h
  · rintro ⟨a, b, rest, x, y, rfl, hx, hy⟩
    simp [beginsEscape, hx, hy]

/-- Without an escape a character is decoded as itself. -/
lemma decodeBytes_cons {c : Char} {cs : List Char} (h : beginsEscape (c :: cs) = false) :
    decodeBytes (c :: cs) = String.utf8EncodeChar c ++ decodeBytes cs := by
  rw [decodeBytes.eq_def]
  split
  · rename_i a b rest heq
    cases heq
    split
    · rename_i x y ha hb
      simp [beginsEscape, ha, hb] at h
    · rfl
  · rename_i heq
    cases heq
    rfl
  · rename_i heq
    cases heq

/-- Decoding makes text shorter if it has escapes, and never longer. -/
lemma length_decodeBytes_le (cs : List Char) :
    (decodeBytes cs).length + (if hasEscape cs then 1 else 0) ≤ (utf8 cs).length := by
  match cs with
  | [] => simp [decodeBytes, hasEscape]
  | c :: cs =>
    cases hbegins : beginsEscape (c :: cs) with
    | true =>
      obtain ⟨a, b, rest, x, y, hcs, hx, hy⟩ := beginsEscape_iff.1 hbegins
      obtain ⟨rfl, rfl⟩ := List.cons.inj hcs
      have ih := length_decodeBytes_le rest
      have ha := length_utf8EncodeChar_pos a
      have hb := length_utf8EncodeChar_pos b
      have hc := length_utf8EncodeChar_pos '%'
      simp only [decodeBytes, hx, hy, utf8_cons, List.length_append, List.length_cons]
      split at ih <;> split <;> omega
    | false =>
      have ih := length_decodeBytes_le cs
      simp only [decodeBytes_cons hbegins, hasEscape, hbegins, Bool.false_or, utf8_cons,
        List.length_append]
      omega
termination_by cs.length

/-- Text without escapes is decoded as itself. -/
lemma decodeBytes_of_hasEscape_eq_false {cs : List Char} (h : hasEscape cs = false) :
    decodeBytes cs = utf8 cs := by
  induction cs with
  | nil => rfl
  | cons c cs ih =>
    obtain ⟨hbegins, hrest⟩ := Bool.or_eq_false_iff.1 h
    rw [decodeBytes_cons hbegins, ih hrest, utf8_cons]

/-! ### Escaping -/

lemma hexValue?_upperHex {n : Nat} (h : n < 16) : hexValue? (upperHex n) = some n := by
  have hall : ∀ n < 16, hexValue? (upperHex n) = some n := by decide
  exact hall n h

lemma decodeBytes_encodeByte (b : UInt8) (cs : List Char) :
    decodeBytes (encodeByte b ++ cs) = b :: decodeBytes cs := by
  have hb : b.toNat < 256 := b.toNat_lt
  have hhigh : hexValue? (upperHex (b.toNat / 16)) = some (b.toNat / 16) :=
    hexValue?_upperHex (by omega)
  have hlow : hexValue? (upperHex (b.toNat % 16)) = some (b.toNat % 16) :=
    hexValue?_upperHex (by omega)
  have hsum : b.toNat / 16 * 16 + b.toNat % 16 = b.toNat := by omega
  simp only [encodeByte, List.cons_append, List.nil_append, decodeBytes, hhigh, hlow, hsum]
  rw [UInt8.ofNat_toNat]

lemma decodeBytes_escape (c : Char) (cs : List Char) :
    decodeBytes (escape c ++ cs) = String.utf8EncodeChar c ++ decodeBytes cs := by
  unfold escape
  induction String.utf8EncodeChar c with
  | nil => rfl
  | cons b bs ih =>
    rw [List.flatMap_cons, List.append_assoc, decodeBytes_encodeByte, ih, List.cons_append]

/-- An escaped character begins with a percent sign. -/
lemma exists_escape_eq_cons (c : Char) : ∃ cs, escape c = '%' :: cs := by
  unfold escape
  cases hbytes : String.utf8EncodeChar c with
  | nil =>
    have hpos := length_utf8EncodeChar_pos c
    rw [hbytes] at hpos
    cases hpos
  | cons b bs => exact ⟨_, rfl⟩

lemma encodeChars_cons (escaped : Char → Bool) (c : Char) (cs : List Char) :
    encodeChars escaped (c :: cs) =
      (if escaped c then escape c else [c]) ++ encodeChars escaped cs := by
  simp [encodeChars]

lemma not_beginsEscape_of_first {c a : Char} {cs : List Char} (h : (hexValue? a).isSome = false) :
    beginsEscape (c :: a :: cs) = false := by
  rw [← Bool.not_eq_true, beginsEscape_iff]
  rintro ⟨a', b, rest, x, y, hcs, hx, -⟩
  cases hcs
  simp [hx] at h

lemma not_beginsEscape_of_second {c a b : Char} {cs : List Char}
    (h : (hexValue? b).isSome = false) : beginsEscape (c :: a :: b :: cs) = false := by
  rw [← Bool.not_eq_true, beginsEscape_iff]
  rintro ⟨a', b', rest, x, y, hcs, -, hy⟩
  cases hcs
  simp [hy] at h

section Encoding

/-- What is escaped does not occur in escapes. -/
structure SparesEscapes (escaped : Char → Bool) : Prop where
  percent : escaped '%' = false
  digit : ∀ c, escaped c = true → (hexValue? c).isSome = false

variable {escaped : Char → Bool} (h : SparesEscapes escaped)

include h

/-- Escaping neither makes nor breaks an escape. -/
lemma beginsEscape_encodeChars (c : Char) (cs : List Char) :
    beginsEscape (c :: encodeChars escaped cs) = beginsEscape (c :: cs) := by
  have hpercent : (hexValue? '%').isSome = false := by decide
  match cs with
  | [] => rfl
  | [a] =>
    rw [encodeChars_cons]
    split
    · rename_i ha
      obtain ⟨ds, hds⟩ := exists_escape_eq_cons a
      rw [hds, List.cons_append, not_beginsEscape_of_first hpercent,
        not_beginsEscape_of_first (h.digit a ha)]
    · rfl
  | a :: b :: cs =>
    rw [encodeChars_cons]
    split
    · rename_i ha
      obtain ⟨ds, hds⟩ := exists_escape_eq_cons a
      rw [hds, List.cons_append, not_beginsEscape_of_first hpercent,
        not_beginsEscape_of_first (h.digit a ha)]
    · rw [encodeChars_cons]
      split
      · rename_i hb
        obtain ⟨ds, hds⟩ := exists_escape_eq_cons b
        rw [hds]
        refine (not_beginsEscape_of_second hpercent).trans ?_
        exact (not_beginsEscape_of_second (h.digit b hb)).symm
      · rfl

/-- Decoding undoes escaping, and decodes the escapes that were there before. -/
lemma decodeBytes_encodeChars (cs : List Char) :
    decodeBytes (encodeChars escaped cs) = decodeBytes cs := by
  match cs with
  | [] => rfl
  | c :: cs =>
    rw [encodeChars_cons]
    split
    · rename_i hc
      have hplain : beginsEscape (c :: cs) = false := by
        rw [← Bool.not_eq_true, beginsEscape_iff]
        rintro ⟨a, b, rest, x, y, hcs, -, -⟩
        cases hcs
        rw [h.percent] at hc
        cases hc
      rw [decodeBytes_escape, decodeBytes_encodeChars cs, decodeBytes_cons hplain]
    · rw [List.singleton_append]
      cases hbegins : beginsEscape (c :: cs) with
      | true =>
        obtain ⟨a, b, rest, x, y, hcs, hx, hy⟩ := beginsEscape_iff.1 hbegins
        obtain ⟨rfl, rfl⟩ := List.cons.inj hcs
        have ha : escaped a ≠ true := fun ha => by simpa [hx] using h.digit a ha
        have hb : escaped b ≠ true := fun hb => by simpa [hy] using h.digit b hb
        rw [encodeChars_cons, if_neg ha, encodeChars_cons, if_neg hb]
        simp only [List.singleton_append, decodeBytes, hx, hy, decodeBytes_encodeChars rest]
      | false =>
        have hencoded := hbegins
        rw [← beginsEscape_encodeChars h] at hencoded
        rw [decodeBytes_cons hencoded, decodeBytes_cons hbegins, decodeBytes_encodeChars cs]
termination_by cs.length

end Encoding

lemma sparesEscapes_isEscapedInPath : SparesEscapes isEscapedInPath where
  percent := by decide
  digit c hc := by
    by_cases hascii : c.toNat < 128
    · have hall : ∀ n < 128, isEscapedInPath (Char.ofNat n) = true →
          (hexValue? (Char.ofNat n)).isSome = false := by decide
      have hc' := hall c.toNat hascii
      rw [Char.ofNat_toNat] at hc'
      exact hc' hc
    · have hbound : ∀ d : Char, d.toNat < 128 → ¬ c ≤ d := by
        intro d hd hle
        have hval : c.toNat ≤ d.toNat := UInt32.le_iff_toNat_le.1 hle
        omega
      have hdigit : c.isDigit = false := by
        rw [← Bool.not_eq_true]
        intro hdigit
        simp only [Char.isDigit, Bool.and_eq_true, decide_eq_true_eq] at hdigit
        exact hbound '9' (by decide) hdigit.2
      simp [hexValue?, hdigit, hbound 'f' (by decide), hbound 'F' (by decide)]

end BucketOperator.Url
