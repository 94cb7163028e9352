import BucketOperator.Proofs.Url.Percent
import BucketOperator.Url.Parser
import Mathlib.Data.List.DropRight
import Mathlib.Data.List.TakeDrop

/-!
# Joining rooted paths

A reference that begins with one slash replaces the path of its base. On the way blanks around it
and line breaks in it are dropped, and what follows a question mark or a hash sign is cut off.
Then dot segments are resolved. Each of these makes the path shorter.
-/

namespace BucketOperator.Url

/-! ### What counts of a text -/

/-- A blank or a control, which does not count at the end of a text. -/
def isOuter (c : Char) : Bool := decide (c.toNat ≤ 0x20)

/-- Neither a tab nor a line break, which do not count anywhere. -/
def isInline (c : Char) : Bool := c != '\t' && c != '\n' && c != '\r'

/-- What counts of what follows the beginning of a text. -/
def kept (cs : List Char) : List Char := (cs.rdropWhile isOuter).filter isInline

lemma significant_eq (text : String) :
    significant text = kept (text.toList.dropWhile isOuter) := rfl

lemma rdropWhile_sublist (p : Char → Bool) (cs : List Char) : (cs.rdropWhile p).Sublist cs :=
  (List.rdropWhile_prefix p cs).sublist

lemma kept_sublist (cs : List Char) : (kept cs).Sublist cs :=
  List.filter_sublist.trans (rdropWhile_sublist isOuter cs)

lemma rdropWhile_isOuter_eq_iff {cs : List Char} :
    cs.rdropWhile isOuter = cs ↔ ∀ c ∈ cs.getLast?, isOuter c = false := by
  rw [List.rdropWhile_eq_self_iff]
  constructor
  · intro h c hc
    obtain ⟨hne, rfl⟩ := List.mem_getLast?_eq_getLast hc
    exact eq_false_of_ne_true (h hne)
  · intro h hne
    rw [h _ (List.getLast?_eq_some_getLast hne)]
    exact Bool.false_ne_true

/-- Everything is kept exactly if there are no tabs and line breaks, and no blank or control at
the end. -/
lemma kept_eq_iff {cs : List Char} :
    kept cs = cs ↔ (∀ c ∈ cs, isInline c = true) ∧ ∀ c ∈ cs.getLast?, isOuter c = false := by
  rw [← rdropWhile_isOuter_eq_iff]
  constructor
  · intro h
    have htrimmed : cs.rdropWhile isOuter = cs := by
      refine (rdropWhile_sublist isOuter cs).eq_of_length_le ?_
      calc cs.length = (kept cs).length := by rw [h]
        _ ≤ (cs.rdropWhile isOuter).length := List.length_filter_le _ _
    rw [kept, htrimmed, List.filter_eq_self] at h
    exact ⟨h, htrimmed⟩
  · rintro ⟨hinline, htrimmed⟩
    rw [kept, htrimmed, List.filter_eq_self]
    exact hinline

lemma isInline_of_isOuter_eq_false {c : Char} (h : isOuter c = false) : isInline c = true := by
  unfold isInline
  simp only [Bool.and_eq_true, bne_iff_ne, ne_eq]
  refine ⟨⟨?_, ?_⟩, ?_⟩ <;>
  · rintro rfl
    cases h

/-- The first characters of a text count if they are no blanks or controls. -/
lemma kept_cons {c : Char} {cs : List Char} (hc : isOuter c = false) :
    kept (c :: cs) = c :: kept cs := by
  have htrimmed : (c :: cs).rdropWhile isOuter = c :: cs.rdropWhile isOuter := by
    induction cs using List.reverseRecOn with
    | nil =>
      have h := List.rdropWhile_concat_neg isOuter [] c (by simp [hc])
      exact h
    | append_singleton cs d ih =>
      rw [← List.cons_append, List.rdropWhile_concat, List.rdropWhile_concat, ih]
      split <;> rfl
  rw [kept, htrimmed, List.filter_cons_of_pos (isInline_of_isOuter_eq_false hc)]
  rfl

/-! ### Queries and fragments -/

lemma splitFirst_fst (c : Char) (cs : List Char) : (splitFirst c cs).1 = cs.takeWhile (· != c) := by
  unfold splitFirst
  rw [List.span_eq_takeWhile_dropWhile]
  cases cs.dropWhile (· != c) <;> rfl

lemma splitFirst_of_notMem {c : Char} {cs : List Char} (h : c ∉ cs) :
    splitFirst c cs = (cs, none) := by
  have hall : ∀ d ∈ cs, (d != c) = true := by
    intro d hd
    rw [bne_iff_ne]
    rintro rfl
    exact h hd
  unfold splitFirst
  rw [List.span_eq_takeWhile_dropWhile, List.takeWhile_eq_self_iff.2 hall,
    List.dropWhile_eq_nil_iff.2 hall]

/-- What comes before query and fragment. -/
def body (cs : List Char) : List Char := (cs.takeWhile (· != '#')).takeWhile (· != '?')

lemma splitTail_fst (cs : List Char) : (splitTail cs).1 = body cs := by
  unfold splitTail body
  rw [← splitFirst_fst, ← splitFirst_fst]

lemma splitTail_of_notMem {cs : List Char} (hhash : '#' ∉ cs) (hquery : '?' ∉ cs) :
    splitTail cs = (cs, none, none) := by
  unfold splitTail
  rw [splitFirst_of_notMem hhash]
  simp only [splitFirst_of_notMem hquery]

lemma body_sublist (cs : List Char) : (body cs).Sublist cs :=
  (List.takeWhile_sublist _).trans (List.takeWhile_sublist _)

lemma body_cons {c : Char} {cs : List Char} (hhash : c ≠ '#') (hquery : c ≠ '?') :
    body (c :: cs) = c :: body cs := by
  simp [body, hhash, hquery]

lemma body_eq_iff {cs : List Char} : body cs = cs ↔ '#' ∉ cs ∧ '?' ∉ cs := by
  constructor
  · intro h
    have hhash : cs.takeWhile (· != '#') = cs := by
      refine (List.takeWhile_sublist _).eq_of_length_le ?_
      calc cs.length = (body cs).length := by rw [h]
        _ ≤ (cs.takeWhile (· != '#')).length := (List.takeWhile_sublist _).length_le
    rw [body, hhash] at h
    rw [List.takeWhile_eq_self_iff] at h hhash
    constructor
    · intro hmem
      simpa using hhash '#' hmem
    · intro hmem
      simpa using h '?' hmem
  · rintro ⟨hhash, hquery⟩
    rw [← splitTail_fst, splitTail_of_notMem hhash hquery]

/-! ### Rooted references -/

section Rooted

variable {base : Url} {segments : List String} {text : String} {d : Char} {rest : List Char}
  (hspecial : isSpecial base.scheme = true) (hbase : base.path = .segments segments)
  (htext : text.toList = '/' :: d :: rest) (hd : isOuter d = false)
  (hslash : isSlash true d = false) (hhash : d ≠ '#') (hquery : d ≠ '?')

include htext hd in
lemma significant_rooted : significant text = '/' :: d :: kept rest := by
  have hroot : isOuter '/' = false := by decide
  rw [significant_eq, htext, List.dropWhile_cons_of_neg (by decide), kept_cons hroot, kept_cons hd]

/-- A text that begins with a slash has no scheme. -/
lemma splitScheme?_rooted (cs : List Char) : splitScheme? ('/' :: cs) = none := by
  have hfirst := splitFirst_fst ':' ('/' :: cs)
  rw [List.takeWhile_cons_of_pos (by decide)] at hfirst
  unfold splitScheme?
  split
  · rename_i c rest after heq
    rw [heq] at hfirst
    cases hfirst
    rfl
  · rfl

include hspecial hbase hslash in
/-- A body that begins with one slash keeps the place of the base and replaces the path. -/
lemma resolve_rooted {cs : List Char} {query fragment : Option (List Char)}
    (htail : splitTail cs = ('/' :: d :: rest, query, fragment)) :
    resolve base cs = .ok { base with
      path := .segments (readPath true [] (d :: rest))
      query := readQuery base.scheme query
      fragment := readFragment fragment } := by
  have hroot : isSlash true '/' = true := by decide
  unfold resolve
  simp [htail, hbase, hspecial, hroot, hslash]

include hspecial hbase htext hd hslash hhash hquery in
lemma join_rooted : ∃ query fragment, join base text = .ok { base with
    path := .segments (readPath true [] (d :: body (kept rest)))
    query := query
    fragment := fragment } := by
  have htail : (splitTail ('/' :: d :: kept rest)).1 = '/' :: d :: body (kept rest) := by
    rw [splitTail_fst, body_cons (by decide) (by decide), body_cons hhash hquery]
  rcases hsplit : splitTail ('/' :: d :: kept rest) with ⟨before, query, fragment⟩
  rw [hsplit] at htail
  refine ⟨readQuery base.scheme query, readFragment fragment, ?_⟩
  rw [join, parseWith]
  simp only [significant_rooted htext hd, splitScheme?_rooted]
  exact resolve_rooted hspecial hbase hslash (hsplit.trans (Prod.ext htail rfl))

include hspecial hbase htext hd hslash hhash hquery in
/-- A reference of which everything counts has no query and no fragment. -/
lemma join_rooted_plain (hkept : kept rest = rest) (hbody : body rest = rest) :
    join base text = .ok { base with
      path := .segments (readPath true [] (d :: rest))
      query := none
      fragment := none } := by
  obtain ⟨hnohash, hnoquery⟩ := body_eq_iff.1 hbody
  have htail : splitTail ('/' :: d :: rest) = ('/' :: d :: rest, none, none) := by
    apply splitTail_of_notMem
    · simp [hhash.symm, hnohash]
    · simp [hquery.symm, hnoquery]
  rw [join, parseWith]
  simp only [significant_rooted htext hd, hkept, splitScheme?_rooted]
  exact resolve_rooted hspecial hbase hslash htail

end Rooted

/-! ### Segments -/

/-- The bytes of the segments of a path that was read. -/
def decoded (segments : List String) : List (List UInt8) :=
  segments.map fun segment => decodeBytes segment.toList

/-- The size of a path, with a slash for each segment. -/
def weight : List (List UInt8) → Nat
  | [] => 0
  | s :: segments => s.length + 1 + weight segments

@[simp] lemma weight_nil : weight [] = 0 := rfl

@[simp] lemma weight_cons (s : List UInt8) (segments : List (List UInt8)) :
    weight (s :: segments) = s.length + 1 + weight segments := rfl

@[simp] lemma weight_append (s t : List (List UInt8)) : weight (s ++ t) = weight s + weight t := by
  induction s with
  | nil => simp
  | cons s segments ih => simp [ih, Nat.add_assoc]

section Splitting

variable {p : Char → Bool}

lemma length_splitOnP (cs : List Char) : (cs.splitOnP p).length = cs.countP p + 1 := by
  induction cs with
  | nil => simp
  | cons c cs ih =>
    rw [List.splitOnP_cons_eq_if_modifyHead, List.countP_cons]
    split
    · simp [*]
    · simp [*]

lemma weight_splitOnP (hp : ∀ c, p c = true → (String.utf8EncodeChar c).length = 1)
    (cs : List Char) : weight ((cs.splitOnP p).map utf8) = (utf8 cs).length + 1 := by
  induction cs with
  | nil => simp
  | cons c cs ih =>
    rw [List.splitOnP_cons_eq_if_modifyHead, utf8_cons, List.length_append]
    split
    · rename_i hc
      rw [List.map_cons, weight_cons, ih, hp c hc]
      simp
      omega
    · cases hsplit : cs.splitOnP p with
      | nil => exact absurd hsplit (List.splitOnP_ne_nil p cs)
      | cons s segments =>
        rw [hsplit] at ih
        simp at ih ⊢
        omega

lemma splitOnP_congr {q : Char → Bool} {cs : List Char} (h : ∀ c ∈ cs, p c = q c) :
    cs.splitOnP p = cs.splitOnP q := by
  induction cs with
  | nil => simp
  | cons c cs ih =>
    rw [List.splitOnP_cons_eq_if_modifyHead, List.splitOnP_cons_eq_if_modifyHead,
      h c List.mem_cons_self, ih fun d hd => h d (List.mem_cons_of_mem _ hd)]

end Splitting

/-- A dot segment, or one with an escape. -/
def isRewritten (raw : List Char) : Bool :=
  dots raw == some 1 || dots raw == some 2 || hasEscape raw

/-- Reading a segment that is no dot segment escapes it. -/
def written (raw : List Char) : String := String.ofList (encodeChars isEscapedInPath raw)

lemma decoded_written (raw : List Char) : decodeBytes (written raw).toList = decodeBytes raw := by
  rw [written, String.toList_ofList]
  exact decodeBytes_encodeChars sparesEscapes_isEscapedInPath raw

lemma weight_climb_le (stack : List String) :
    weight (decoded (climb stack)) ≤ weight (decoded stack) := by
  unfold climb
  split
  · rename_i last hlast
    split
    · exact le_rfl
    · obtain ⟨stack, rfl⟩ := List.getLast?_eq_some_iff.1 hlast
      simp [decoded]
  · simp [decoded]

lemma length_utf8_pos_of_dots {raw : List Char} {n : Nat} (h : dots raw = some (n + 1)) :
    0 < (utf8 raw).length := by
  cases raw with
  | nil => simp [dots] at h
  | cons c cs =>
    have hpos := length_utf8EncodeChar_pos c
    rw [utf8_cons, List.length_append]
    omega

/-- Without dot segments a path is read as it is. -/
lemma descend_eq (stack : List String) {raws : List (List Char)}
    (h : ∀ raw ∈ raws, isRewritten raw = false) :
    descend stack raws = stack ++ raws.map written := by
  fun_induction descend stack raws with
  | case1 => simp
  | case2 stack last hdots => simp [isRewritten, hdots] at h
  | case3 stack last hdots => simp [isRewritten, hdots] at h
  | case4 stack last hone htwo => rfl
  | case5 stack segment rest hne hdots ih => simp [isRewritten, hdots] at h
  | case6 stack segment rest hne hdots ih => simp [isRewritten, hdots] at h
  | case7 stack segment rest hne hone htwo ih =>
    rw [ih fun raw hraw => h raw (List.mem_cons_of_mem _ hraw), List.append_assoc]
    rfl

lemma hasEscape_of_isRewritten {raw : List Char} (h : isRewritten raw = false) :
    hasEscape raw = false :=
  (Bool.or_eq_false_iff.1 h).2

/-- Segments that are not rewritten are decoded as they were. -/
lemma decoded_map_written {raws : List (List Char)} (h : ∀ raw ∈ raws, isRewritten raw = false) :
    decoded (raws.map written) = raws.map utf8 := by
  rw [decoded, List.map_map]
  apply List.map_congr_left
  intro raw hraw
  rw [Function.comp_apply, decoded_written]
  exact decodeBytes_of_hasEscape_eq_false (hasEscape_of_isRewritten (h raw hraw))

@[simp] lemma decoded_append (s t : List String) : decoded (s ++ t) = decoded s ++ decoded t :=
  List.map_append

/-- A segment that is read is no longer than it was written, and shorter if it has escapes. -/
lemma weight_written_le {raw : List Char} (hone : dots raw ≠ some 1) (htwo : dots raw ≠ some 2) :
    weight (decoded [written raw]) + (if isRewritten raw then 1 else 0) ≤ weight [utf8 raw] := by
  have hescapes := length_decodeBytes_le raw
  have hrewritten : isRewritten raw = hasEscape raw := by simp [isRewritten, hone, htwo]
  rw [hrewritten]
  simp only [decoded, List.map_cons, List.map_nil, weight_cons, weight_nil, decoded_written]
  omega

/-- Reading a path makes it shorter if it has dot segments or escapes, and never longer. -/
lemma weight_descend_le (stack : List String) (raws : List (List Char)) :
    weight (decoded (descend stack raws)) + (if raws.any isRewritten then 1 else 0) ≤
      weight (decoded stack) + weight (raws.map utf8) := by
  have hempty : weight (decoded [""]) = 1 := by decide
  fun_induction descend stack raws with
  | case1 => simp
  | case2 stack last hdots =>
    have hpos := length_utf8_pos_of_dots hdots
    simp only [decoded_append, weight_append, hempty, List.map_cons, List.map_nil, weight_cons]
    split <;> omega
  | case3 stack last hdots =>
    have hpos := length_utf8_pos_of_dots hdots
    have hclimb := weight_climb_le stack
    simp only [decoded_append, weight_append, hempty, List.map_cons, List.map_nil, weight_cons]
    split <;> omega
  | case4 stack last hone htwo =>
    have hlast := weight_written_le hone htwo
    rw [← written, decoded_append, weight_append]
    simpa [add_assoc] using hlast
  | case5 stack segment rest hne hdots ih =>
    rw [List.map_cons, weight_cons]
    split at ih <;> split <;> omega
  | case6 stack segment rest hne hdots ih =>
    have hclimb := weight_climb_le stack
    rw [List.map_cons, weight_cons]
    split at ih <;> split <;> omega
  | case7 stack segment rest hne hone htwo ih =>
    have hsegment := weight_written_le hone htwo
    rw [← written, decoded_append, weight_append] at ih
    have hany : (if (segment :: rest).any isRewritten then 1 else 0) ≤
        (if isRewritten segment then 1 else 0) + (if rest.any isRewritten then 1 else 0) := by
      rw [List.any_cons]
      cases isRewritten segment <;> cases rest.any isRewritten <;> decide
    rw [← written, List.map_cons]
    simp only [weight_cons, weight_nil] at hsegment ⊢
    omega

end BucketOperator.Url
