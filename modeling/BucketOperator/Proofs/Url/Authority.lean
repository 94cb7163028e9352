import BucketOperator.Proofs.Url.Joining

/-!
# Where a URL leads

The origin of a URL with a scheme of the web is read from two parts of its text: the scheme, and
what stands behind the slashes up to the next slash or delimiter. Text that follows a further slash
has no part in it.
-/

namespace BucketOperator.Url

/-! ### The place -/

/-- What names user, host and port: the text behind the slashes, up to the next one. -/
def place (cs : List Char) : List Char :=
  ((body cs).dropWhile (isSlash true)).takeWhile fun c => !isSlash true c

lemma body_eq_takeWhile (cs : List Char) :
    body cs = cs.takeWhile fun c => c != '#' && c != '?' := by
  induction cs with
  | nil => rfl
  | cons c cs ih =>
    by_cases hhash : c = '#'
    · simp [body, hhash]
    by_cases hquery : c = '?'
    · simp [body, hquery]
    · rw [body_cons hhash hquery, ih]
      simp [hhash, hquery]

/-- A query or a fragment hides what follows it. -/
lemma body_append_of_ne {cs : List Char} (h : body cs ≠ cs) (ds : List Char) :
    body (cs ++ ds) = body cs := by
  rw [body_eq_takeWhile] at h
  rw [body_eq_takeWhile, body_eq_takeWhile, List.takeWhile_append, if_neg]
  intro hlength
  exact h ((List.takeWhile_sublist _).eq_of_length hlength)

lemma body_append_of_eq {cs : List Char} (h : body cs = cs) (ds : List Char) :
    body (cs ++ ds) = cs ++ body ds := by
  rw [body_eq_takeWhile] at h
  rw [body_eq_takeWhile, List.takeWhile_append, h, if_pos rfl, ← body_eq_takeWhile]

lemma takeWhile_append_slash (cs ds : List Char) :
    (cs ++ '/' :: ds).takeWhile (fun c => !isSlash true c) =
      cs.takeWhile fun c => !isSlash true c := by
  have hroot : isSlash true '/' = true := by decide
  rw [List.takeWhile_append, List.takeWhile_cons_of_neg (by simp [hroot]), List.append_nil]
  split
  · rename_i hlength
    exact ((List.takeWhile_sublist _).eq_of_length hlength).symm
  · rfl

/-- What follows a slash has no part in the place, unless there are slashes only before it. -/
lemma place_append_slash {cs : List Char} (h : (body cs).dropWhile (isSlash true) ≠ [])
    (ds : List Char) : place (cs ++ '/' :: ds) = place cs := by
  by_cases hbody : body cs = cs
  · rw [hbody] at h
    rw [place, body_append_of_eq hbody, body_cons (by decide) (by decide), List.dropWhile_append,
      if_neg (by simpa using h), takeWhile_append_slash, place, hbody]
  · rw [place, body_append_of_ne hbody, place]

lemma dropWhile_body_ne_nil {cs : List Char} (h : place cs ≠ []) :
    (body cs).dropWhile (isSlash true) ≠ [] := by
  intro hnil
  rw [place, hnil] at h
  exact h rfl

/-- Slashes at the end of a text have no part in the place. -/
lemma place_append_slashes (cs : List Char) {slashes : List Char}
    (h : ∀ c ∈ slashes, c = '/') : place (cs ++ slashes) = place cs := by
  by_cases hnil : (body cs).dropWhile (isSlash true) = []
  · have hslashes : slashes.dropWhile (isSlash true) = [] := by
      rw [List.dropWhile_eq_nil_iff]
      intro c hc
      rw [h c hc]
      rfl
    by_cases hbody : body cs = cs
    · have hall : body slashes = slashes := by
        rw [body_eq_iff]
        constructor <;>
        · intro hc
          exact absurd (h _ hc) (by decide)
      rw [place, place, body_append_of_eq hbody, hall, hbody, List.dropWhile_append, hslashes,
        ← hbody, hnil]
      rfl
    · rw [place, body_append_of_ne hbody, place]
  · cases slashes with
    | nil => rw [List.append_nil]
    | cons c slashes =>
      obtain rfl : c = '/' := h c List.mem_cons_self
      exact place_append_slash hnil slashes

/-! ### The scheme -/

lemma splitFirst_append {c : Char} {cs before after : List Char}
    (h : splitFirst c cs = (before, some after)) (ds : List Char) :
    splitFirst c (cs ++ ds) = (before, some (after ++ ds)) := by
  unfold splitFirst at h ⊢
  rw [List.span_eq_takeWhile_dropWhile] at h ⊢
  have hsplit : (cs ++ ds).takeWhile (· != c) ++ (cs ++ ds).dropWhile (· != c) = cs ++ ds :=
    List.takeWhile_append_dropWhile
  cases hdrop : cs.dropWhile (· != c) with
  | nil => simp [hdrop] at h
  | cons d rest =>
    have hlength : ¬ (cs.takeWhile (· != c)).length = cs.length := by
      intro hlength
      have hall := List.takeWhile_append_dropWhile (p := (· != c)) (l := cs)
      rw [(List.takeWhile_sublist _).eq_of_length hlength, hdrop] at hall
      simp at hall
    rw [hdrop] at h
    cases h
    rw [List.takeWhile_append, if_neg hlength, List.dropWhile_append, hdrop]
    rfl

/-- The part behind the scheme takes in what is added to a text. -/
lemma splitScheme?_append {cs rest : List Char} {scheme : String}
    (h : splitScheme? cs = some (scheme, rest)) (ds : List Char) :
    splitScheme? (cs ++ ds) = some (scheme, rest ++ ds) := by
  unfold splitScheme? at h
  split at h
  · rename_i c before after hfirst
    rw [splitScheme?, splitFirst_append hfirst]
    split at h
    · rename_i hscheme
      cases h
      simp [hscheme]
    · cases h
  · cases h

lemma notMem_of_splitFirst {c : Char} {cs before : List Char}
    (h : splitFirst c cs = (before, none)) : c ∉ cs := by
  unfold splitFirst at h
  rw [List.span_eq_takeWhile_dropWhile] at h
  cases hdrop : cs.dropWhile (· != c) with
  | nil =>
    intro hc
    exact absurd (List.dropWhile_eq_nil_iff.1 hdrop c hc) (by simp)
  | cons d rest => simp [hdrop] at h

lemma splitScheme?_of_notMem {cs : List Char} (h : ':' ∉ cs) : splitScheme? cs = none := by
  rw [splitScheme?, splitFirst_of_notMem h]
  split
  · rename_i heq
    cases heq
  · rfl

/-- The colon behind a scheme is not looked for past what has none. -/
lemma exists_splitScheme?_of_append {cs ds rest : List Char} {scheme : String}
    (h : splitScheme? (cs ++ ds) = some (scheme, rest)) (hcolon : ':' ∉ ds) :
    ∃ after, splitScheme? cs = some (scheme, after) ∧ rest = after ++ ds := by
  rcases hfirst : splitFirst ':' cs with ⟨before, _ | after⟩
  · have hnone : ':' ∉ cs ++ ds := by simp [notMem_of_splitFirst hfirst, hcolon]
    rw [splitScheme?_of_notMem hnone] at h
    cases h
  · rw [splitScheme?, splitFirst_append hfirst] at h
    rw [splitScheme?, hfirst]
    split at h
    · rename_i heq
      cases heq
      split at h
      · rename_i hscheme
        cases h
        exact ⟨after, by simp [hscheme], rfl⟩
      · cases h
    · cases h

/-! ### Texts of the web -/

/-- Where an authority leads under a scheme. -/
def Authority.origin (authority : Authority) (scheme : String) :
    String × Option String × Option Nat :=
  (scheme, some authority.host, authority.port)

/-- A URL with an authority leads where the authority does, and its path is a list of segments. -/
lemma exists_hierarchical {scheme : String} (hspecial : isSpecial scheme = true) (cs : List Char)
    (query fragment : Option (List Char)) :
    (∃ e, hierarchical scheme cs query fragment = .error e ∧
      readAuthority scheme (cs.takeWhile fun c => !isSlash true c) = .error e) ∨
    ∃ url authority segments, hierarchical scheme cs query fragment = .ok url ∧
      readAuthority scheme (cs.takeWhile fun c => !isSlash true c) = .ok authority ∧
      url.origin = authority.origin scheme ∧ url.path = .segments segments := by
  unfold hierarchical
  simp only [hspecial, List.span_eq_takeWhile_dropWhile]
  cases hread : readAuthority scheme (cs.takeWhile fun c => !isSlash true c) with
  | error e => exact .inl ⟨e, rfl, rfl⟩
  | ok authority => exact .inr ⟨_, authority, _, rfl, rfl, rfl, rfl⟩

section Web

variable {text scheme : String} {rest : List Char}
  (hsplit : splitScheme? (significant text) = some (scheme, rest))
  (hspecial : isSpecial scheme = true)

include hsplit hspecial

lemma parse_eq : ∃ query fragment, parse text =
    hierarchical scheme ((body rest).dropWhile (isSlash true)) query fragment := by
  rw [parse, parseWith, ← splitTail_fst]
  simp only [hsplit, hspecial, if_pos]
  exact ⟨_, _, rfl⟩

/-- A text of the web is a URL exactly if its place is an authority, and leads where that does. -/
lemma parse_eq_ok_iff {origin : String × Option String × Option Nat} :
    (∃ url, parse text = .ok url ∧ url.origin = origin) ↔
      ∃ authority, readAuthority scheme (place rest) = .ok authority ∧
        authority.origin scheme = origin := by
  obtain ⟨query, fragment, hparse⟩ := parse_eq hsplit hspecial
  rw [hparse, place]
  rcases exists_hierarchical hspecial ((body rest).dropWhile (isSlash true)) query fragment with
    ⟨e, hurl, hauthority⟩ | ⟨url, authority, segments, hurl, hauthority, horigin, -⟩
  · simp [hurl, hauthority]
  · simp [hurl, hauthority, horigin]

end Web

lemma scheme_of_hierarchical {scheme : String} {cs : List Char}
    {query fragment : Option (List Char)} {url : Url}
    (h : hierarchical scheme cs query fragment = .ok url) : url.scheme = scheme := by
  unfold hierarchical at h
  simp only [List.span_eq_takeWhile_dropWhile] at h
  cases hread : readAuthority scheme (cs.takeWhile fun c => !isSlash (isSpecial scheme) c) with
  | error e => simp [hread, Bind.bind, Except.bind] at h
  | ok authority =>
    simp only [hread] at h
    cases h
    rfl

lemma scheme_of_otherScheme {scheme : String} {cs : List Char} {query fragment : Option (List Char)}
    {url : Url} (h : otherScheme scheme cs query fragment = .ok url) : url.scheme = scheme := by
  unfold otherScheme at h
  split at h
  · exact scheme_of_hierarchical h
  · cases h
    rfl

/-- The scheme of a URL is the one its text begins with. -/
lemma exists_splitScheme? {text : String} {url : Url} (h : parse text = .ok url) :
    ∃ rest, splitScheme? (significant text) = some (url.scheme, rest) := by
  cases hsplit : splitScheme? (significant text) with
  | none => simp [parse, parseWith, hsplit] at h
  | some found =>
    obtain ⟨scheme, rest⟩ := found
    by_cases hspecial : isSpecial scheme = true
    · obtain ⟨query, fragment, hparse⟩ := parse_eq hsplit hspecial
      rw [hparse] at h
      rw [scheme_of_hierarchical h]
      exact ⟨rest, rfl⟩
    · simp only [parse, parseWith, hsplit, hspecial] at h
      rw [scheme_of_otherScheme h]
      exact ⟨rest, rfl⟩

/-- The path of a URL of the web is a list of segments, and it has a host. -/
lemma exists_segments {text : String} {url : Url} (h : parse text = .ok url)
    (hspecial : isSpecial url.scheme = true) :
    (∃ segments, url.path = .segments segments) ∧ ∃ host, url.host = some host := by
  obtain ⟨rest, hsplit⟩ := exists_splitScheme? h
  obtain ⟨query, fragment, hparse⟩ := parse_eq hsplit hspecial
  rw [hparse] at h
  rcases exists_hierarchical hspecial ((body rest).dropWhile (isSlash true)) query fragment with
    ⟨e, hurl, -⟩ | ⟨url', authority, segments, hurl, -, horigin, hpath⟩
  · rw [hurl] at h
    cases h
  · rw [hurl] at h
    cases h
    exact ⟨⟨segments, hpath⟩, authority.host, congrArg (·.2.1) horigin⟩

/-! ### Adding to a text -/

/-- No authority can be read where none is named. -/
lemma place_ne_nil {scheme : String} {cs : List Char} {authority : Authority}
    (hspecial : isSpecial scheme = true) (h : readAuthority scheme (place cs) = .ok authority) :
    place cs ≠ [] := by
  intro hnil
  rw [hnil] at h
  simp [readAuthority, splitUser, splitPort, hspecial, Bind.bind, Except.bind, throw, throwThe,
    MonadExceptOf.throw] at h

/-- Nothing is dropped in front of a character that is not dropped. -/
lemma rdropWhile_append_cons {p : Char → Bool} {d : Char} (hd : p d = false) (cs ds : List Char) :
    (cs ++ d :: ds).rdropWhile p = cs ++ (d :: ds).rdropWhile p := by
  have hne : (d :: ds).reverse.dropWhile p ≠ [] := by
    rw [ne_eq, List.dropWhile_eq_nil_iff]
    intro h
    exact absurd (h d (by simp)) (by simp [hd])
  rw [List.rdropWhile, List.reverse_append, List.dropWhile_append, if_neg (by simpa using hne),
    List.reverse_append, List.reverse_reverse, List.rdropWhile]

/-- Everything counts in front of a slash that counts. -/
lemma kept_append_slash {cs : List Char} (h : ∀ c ∈ cs, isInline c = true) (ds : List Char) :
    kept (cs ++ '/' :: ds) = cs ++ '/' :: kept ds := by
  rw [kept, rdropWhile_append_cons (by decide), List.filter_append, List.filter_eq_self.2 h,
    ← kept_cons (by decide)]
  rfl

/-- A beginning that counts and a slash count in front of whatever follows. -/
lemma significant_append_slash {text : String} {cs ds : List Char} {c : Char}
    (htext : text.toList = c :: cs ++ '/' :: ds) (hc : isOuter c = false)
    (hcs : ∀ d ∈ c :: cs, isInline d = true) :
    significant text = c :: cs ++ '/' :: kept ds := by
  rw [significant_eq, htext, List.cons_append, List.dropWhile_cons_of_neg (by simp [hc]),
    ← List.cons_append, kept_append_slash hcs]

/-- If everything counts in a text, nothing in it is a blank in front or a line break. -/
lemma inline_of_significant {text : String} {c : Char} {cs : List Char}
    (htext : text.toList = c :: cs) (hcounts : significant text = text.toList) :
    isOuter c = false ∧ ∀ d ∈ text.toList, isInline d = true := by
  have hsublist : ((text.toList.dropWhile isOuter)).Sublist text.toList :=
    (List.dropWhile_suffix _).sublist
  have hdrop : text.toList.dropWhile isOuter = text.toList := by
    refine hsublist.eq_of_length_le ?_
    calc text.toList.length = (kept (text.toList.dropWhile isOuter)).length := by
          rw [← significant_eq, hcounts]
      _ ≤ _ := (kept_sublist _).length_le
  rw [significant_eq, hdrop, kept_eq_iff] at hcounts
  refine ⟨?_, hcounts.1⟩
  rw [htext] at hdrop
  cases hc : isOuter c with
  | false => rfl
  | true =>
    rw [List.dropWhile_cons_of_pos hc] at hdrop
    have hlength := (List.dropWhile_suffix (p := isOuter) (l := cs)).length_le
    rw [hdrop] at hlength
    simp at hlength

/-- Whatever follows a slash behind the text of a URL of the web, it is a URL again, and one that
leads to the same place; slashes at the end of the text may be left out. -/
lemma exists_parse_append {front text longer : String} {url : Url} {slashes more : List Char}
    (hparse : parse text = .ok url) (hspecial : isSpecial url.scheme = true)
    (hcounts : significant text = text.toList) (hslashes : ∀ c ∈ slashes, c = '/')
    (hfront : text.toList = front.toList ++ slashes)
    (hlonger : longer.toList = front.toList ++ '/' :: more) :
    ∃ url', parse longer = .ok url' ∧ url'.origin = url.origin := by
  obtain ⟨rest, hsplit⟩ := exists_splitScheme? hparse
  obtain ⟨authority, hauthority, horigin⟩ :=
    (parse_eq_ok_iff hsplit hspecial).1 ⟨url, hparse, rfl⟩
  rw [hcounts, hfront] at hsplit
  have hcolon : ':' ∉ slashes := fun h => absurd (hslashes _ h) (by decide)
  obtain ⟨after, hafter, rfl⟩ := exists_splitScheme?_of_append hsplit hcolon
  rw [place_append_slashes after hslashes] at hauthority
  have hplace := place_append_slash
    (dropWhile_body_ne_nil (place_ne_nil hspecial hauthority)) (kept more)
  have hlongerSplit : splitScheme? (significant longer) =
      some (url.scheme, after ++ '/' :: kept more) := by
    cases hcs : front.toList with
    | nil =>
      rw [hcs] at hafter
      cases hafter
    | cons c cs =>
      rw [hcs] at hfront hlonger hafter
      obtain ⟨hc, hinline⟩ := inline_of_significant hfront hcounts
      have hfrontInline : ∀ d ∈ c :: cs, isInline d = true := fun d hd =>
        hinline d (hfront ▸ List.mem_append_left slashes hd)
      rw [significant_append_slash hlonger hc hfrontInline]
      exact splitScheme?_append hafter _
  rw [← hplace] at hauthority
  exact (parse_eq_ok_iff hlongerSplit hspecial).2 ⟨authority, hauthority, horigin⟩

end BucketOperator.Url
