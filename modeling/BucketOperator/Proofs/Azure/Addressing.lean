import BucketOperator.Azure.Serve
import BucketOperator.Proofs.Azure.Estate
import BucketOperator.Proofs.Url.Joining

/-!
# Where requests for a resource are sent

The id of a resource is joined to the address of Resource Manager as it is, so it must not have
anything that counts in a URL. A request is about the resource whose id it was made from exactly
if nothing in that id is dropped, cut off, decoded or resolved.
-/

namespace BucketOperator.Azure

open Url (decoded utf8 isRewritten isSlash kept body written)

/-! ### Addresses -/

/-- The address of Resource Manager. -/
def managerUrl : Url where
  scheme := "https"
  username := ""
  password := none
  host := some "management.azure.com"
  port := none
  path := .segments [""]
  query := none
  fragment := none

lemma parse_managerEndpoint : Url.parse managerEndpoint = .ok managerUrl := by
  decide +kernel

/-- The resources around a bucket that have an id. -/
inductive Resource where
  | storageAccount
  | listKeys
  | container
  | managementPolicy
  | roleAssignment (assignment : String)
  | vnet
  | subnet
  | privateEndpoint
  | privateZone
  | vnetLink
  | addressRecord

/-- The id of a resource. -/
def ResourceIds.path (ids : ResourceIds) : Resource → String
  | .storageAccount => ids.storageAccount
  | .listKeys => ids.listKeys
  | .container => ids.container
  | .managementPolicy => ids.managementPolicy
  | .roleAssignment assignment => ids.roleAssignment assignment
  | .vnet => ids.vnet
  | .subnet => ids.subnet
  | .privateEndpoint => ids.privateEndpoint
  | .privateZone => ids.privateZone
  | .vnetLink => ids.vnetLink
  | .addressRecord => ids.addressRecord

/-- A URL of Resource Manager with the segments of an id, up to escapes, and with a version and
nothing else in its query. -/
structure Addresses (path version : String) (url : Url) : Prop where
  origin : url.origin = managerUrl.origin
  path : ∃ items, url.path = .segments items ∧
    [] :: decoded items = (path.toList.splitOn '/').map utf8
  query : url.query = some (Url.form [("api-version", version)])

/-- The request for a resource is about that resource. -/
def IsReached (path version : String) : Prop :=
  ∃ url, Client.resourceUrl managerUrl path version = .ok url ∧ Addresses path version url

/-- An id in which nothing counts in a URL: no delimiters but slashes, no tabs and line breaks, no
blank or control at its end, and neither dot segments nor escapes. -/
structure IsPlain (path : String) : Prop where
  chars : ∀ c ∈ path.toList, c ∉ ['\\', '?', '#', '\t', '\n', '\r']
  last : ∀ c ∈ path.toList.getLast?, 0x20 < c.toNat
  segments : ∀ segment ∈ path.toList.splitOn '/', isRewritten segment = false

/-! ### Rooted paths -/

section Rooted

variable {path version : String} {rest : List Char} (hpath : path.toList = '/' :: 's' :: rest)

include hpath

lemma splitOn_rooted : path.toList.splitOn '/' = [] :: ('s' :: rest).splitOn '/' := by
  rw [hpath]
  simp [List.splitOn, List.splitOnP_cons_eq_if_modifyHead]

/-- The URL of a rooted id is always formed, and its path is read from what counts of the id. -/
lemma exists_resourceUrl (version : String) :
    ∃ url, Client.resourceUrl managerUrl path version = .ok url ∧
      url.path = .segments (Url.readPath true [] ('s' :: body (kept rest))) := by
  obtain ⟨query, fragment, hjoin⟩ := Url.join_rooted (by decide)
    (show managerUrl.path = .segments [""] from rfl) hpath (by decide) (by decide) (by decide)
    (by decide)
  rw [Client.resourceUrl, hjoin]
  exact ⟨_, rfl, rfl⟩

/-- If the URL has the segments of the id, everything in the id counts, and no segment was
rewritten. -/
lemma counts_of_isReached (h : IsReached path version) :
    body (kept rest) = rest ∧ (Url.rawSegments true ('s' :: rest)).any isRewritten = false ∧
      decoded (Url.readPath true [] ('s' :: rest)) = (('s' :: rest).splitOn '/').map utf8 := by
  obtain ⟨url, hurl, haddresses⟩ := h
  obtain ⟨url', hurl', hitems'⟩ := exists_resourceUrl hpath version
  rw [hurl] at hurl'
  cases hurl'
  obtain ⟨items, hitems, hsegments⟩ := haddresses.path
  rw [hitems'] at hitems
  cases hitems
  rw [splitOn_rooted hpath, List.map_cons] at hsegments
  obtain ⟨-, hsegments⟩ := List.cons.inj hsegments
  -- What was read is as long as the id, so nothing in the id was left out.
  have hread := Url.weight_descend_le [] (Url.rawSegments true ('s' :: body (kept rest)))
  have hraw : Url.weight ((Url.rawSegments true ('s' :: body (kept rest))).map utf8) =
      (utf8 ('s' :: body (kept rest))).length + 1 := by
    apply Url.weight_splitOnP
    intro c hc
    simp only [isSlash, Bool.true_and, Bool.or_eq_true, beq_iff_eq] at hc
    rcases hc with rfl | rfl <;> decide
  have hid : Url.weight ((('s' :: rest).splitOn '/').map utf8) =
      (utf8 ('s' :: rest)).length + 1 := by
    apply Url.weight_splitOnP
    intro c hc
    rw [eq_of_beq hc]
    decide
  have hweight : Url.weight (decoded (Url.readPath true [] ('s' :: body (kept rest)))) =
      (utf8 ('s' :: rest)).length + 1 := by
    rw [hsegments, hid]
  change _ + _ ≤ 0 + _ at hread
  rw [hraw] at hread
  change Url.weight (decoded (Url.descend _ _)) = _ at hweight
  have hcounts : 's' :: body (kept rest) = 's' :: rest := by
    have hsublist : ('s' :: body (kept rest)).Sublist ('s' :: rest) :=
      ((Url.body_sublist _).trans (Url.kept_sublist _)).cons_cons 's'
    refine (Url.eq_or_length_utf8_lt hsublist).resolve_right ?_
    omega
  obtain ⟨-, hcounts⟩ := List.cons.inj hcounts
  rw [hcounts] at hread hweight hsegments
  refine ⟨hcounts, ?_, hsegments⟩
  rw [← Bool.not_eq_true]
  intro hrewritten
  rw [if_pos hrewritten] at hread
  omega

end Rooted

/-- If the URL has as many segments as the id, there is no backslash in the id. -/
lemma backslash_notMem {cs : List Char} (hraw : (Url.rawSegments true cs).any isRewritten = false)
    (hsegments : decoded (Url.readPath true [] cs) = (cs.splitOn '/').map utf8) : '\\' ∉ cs := by
  intro hbackslash
  have hread : Url.readPath true [] cs = (Url.rawSegments true cs).map written :=
    Url.descend_eq [] (by simpa using hraw)
  have hcount : cs.countP (isSlash true) = cs.countP (· == '/') := by
    have hlength := congrArg List.length hsegments
    rw [hread, decoded, List.length_map, List.length_map, List.length_map, Url.rawSegments,
      List.splitOn, Url.length_splitOnP, Url.length_splitOnP] at hlength
    omega
  have hsublist : (cs.filter (· == '/')).Sublist (cs.filter (isSlash true)) := by
    apply List.monotone_filter_right
    intro c hc
    rw [eq_of_beq hc]
    rfl
  rw [List.countP_eq_length_filter, List.countP_eq_length_filter] at hcount
  have hmem : '\\' ∈ cs.filter (isSlash true) := List.mem_filter.2 ⟨hbackslash, rfl⟩
  rw [← hsublist.eq_of_length hcount.symm] at hmem
  exact absurd (List.mem_filter.1 hmem).2 (by decide)

/-- Without backslashes a path is split at its slashes. -/
lemma rawSegments_eq {cs : List Char} (h : '\\' ∉ cs) :
    Url.rawSegments true cs = cs.splitOn '/' := by
  apply Url.splitOnP_congr
  intro c hc
  have hne : c ≠ '\\' := by
    rintro rfl
    exact h hc
  simp [isSlash, hne]

section Rooted

variable {path version : String} {rest : List Char} (hpath : path.toList = '/' :: 's' :: rest)

lemma forall_chars_rooted {cs : List Char} :
    (∀ c ∈ '/' :: 's' :: cs, c ∉ ['\\', '?', '#', '\t', '\n', '\r']) ↔
      (∀ c ∈ cs, Url.isInline c = true) ∧ ('#' ∉ cs ∧ '?' ∉ cs) ∧ '\\' ∉ 's' :: cs := by
  constructor
  · intro h
    have hcs : ∀ c ∈ cs, c ∉ ['\\', '?', '#', '\t', '\n', '\r'] :=
      fun c hc => h c (List.mem_cons_of_mem _ (List.mem_cons_of_mem _ hc))
    refine ⟨?_, ⟨fun hc => hcs _ hc (by decide), fun hc => hcs _ hc (by decide)⟩,
      fun hc => h _ (List.mem_cons_of_mem _ hc) (by decide)⟩
    intro c hc
    have hne := hcs c hc
    simp only [List.mem_cons, List.not_mem_nil, or_false, not_or] at hne
    simp [Url.isInline, hne]
  · rintro ⟨hinline, ⟨hhash, hquery⟩, hbackslash⟩ c hc
    rcases List.mem_cons.1 hc with rfl | hc
    · decide
    rcases List.mem_cons.1 hc with rfl | hc
    · decide
    have hinline := hinline c hc
    simp only [Url.isInline, Bool.and_eq_true, bne_iff_ne] at hinline
    simp only [List.mem_cons, List.not_mem_nil, or_false, not_or]
    exact ⟨fun heq => hbackslash (heq ▸ List.mem_cons_of_mem _ hc), fun heq => hquery (heq ▸ hc),
      fun heq => hhash (heq ▸ hc), hinline.1.1, hinline.1.2, hinline.2⟩

lemma forall_last_rooted {cs : List Char} :
    (∀ c ∈ ('/' :: 's' :: cs).getLast?, 0x20 < c.toNat) ↔
      ∀ c ∈ cs.getLast?, Url.isOuter c = false := by
  rw [List.getLast?_cons, List.getLast?_cons]
  cases cs.getLast? with
  | none => simp
  | some d => simp [Url.isOuter]

include hpath

/-- Whether an id is plain, told from what follows its first characters. -/
lemma isPlain_rooted_iff : IsPlain path ↔ kept rest = rest ∧ body rest = rest ∧
    '\\' ∉ 's' :: rest ∧ ∀ raw ∈ ('s' :: rest).splitOn '/', isRewritten raw = false := by
  have hroot : isRewritten [] = false := by decide
  rw [Url.kept_eq_iff, Url.body_eq_iff]
  constructor
  · rintro ⟨hchars, hlast, hsegments⟩
    rw [hpath, forall_chars_rooted] at hchars
    rw [hpath, forall_last_rooted] at hlast
    rw [splitOn_rooted hpath, List.forall_mem_cons] at hsegments
    obtain ⟨hinline, hdelimiters, hbackslash⟩ := hchars
    exact ⟨⟨hinline, hlast⟩, hdelimiters, hbackslash, hsegments.2⟩
  · rintro ⟨⟨hinline, hlast⟩, hdelimiters, hbackslash, hsegments⟩
    refine ⟨?_, ?_, ?_⟩
    · rw [hpath, forall_chars_rooted]
      exact ⟨hinline, hdelimiters, hbackslash⟩
    · rw [hpath, forall_last_rooted]
      exact hlast
    · rw [splitOn_rooted hpath, List.forall_mem_cons]
      exact ⟨hroot, hsegments⟩

lemma isPlain_of_isReached (h : IsReached path version) : IsPlain path := by
  obtain ⟨hcounts, hraw, hsegments⟩ := counts_of_isReached hpath h
  have hkept : kept rest = rest := by
    refine (Url.kept_sublist rest).eq_of_length_le ?_
    calc rest.length = (body (kept rest)).length := by rw [hcounts]
      _ ≤ (kept rest).length := (Url.body_sublist _).length_le
  have hbackslash := backslash_notMem hraw hsegments
  rw [hkept] at hcounts
  rw [rawSegments_eq hbackslash] at hraw
  exact (isPlain_rooted_iff hpath).2 ⟨hkept, hcounts, hbackslash, by simpa using hraw⟩

lemma isReached_of_isPlain (h : IsPlain path) : IsReached path version := by
  obtain ⟨hkept, hbody, hbackslash, hrewritten⟩ := (isPlain_rooted_iff hpath).1 h
  have hjoin := Url.join_rooted_plain (by decide)
    (show managerUrl.path = .segments [""] from rfl) hpath (by decide) (by decide) (by decide)
    (by decide) hkept hbody
  have hurl : Client.resourceUrl managerUrl path version = .ok
      (Url.appendQuery { managerUrl with
        path := .segments (Url.readPath true [] ('s' :: rest)) } "api-version" version) := by
    rw [Client.resourceUrl, hjoin]
    rfl
  refine ⟨_, hurl, rfl, ⟨_, rfl, ?_⟩, rfl⟩
  rw [splitOn_rooted hpath, List.map_cons, Url.readPath, rawSegments_eq hbackslash,
    Url.descend_eq [] hrewritten, List.nil_append, Url.decoded_map_written hrewritten]
  rfl

end Rooted

/-! ### Ids -/

/-- The id of every resource begins with that of the resource group. -/
lemma exists_path_eq (ids : ResourceIds) (resource : Resource) :
    ∃ tail, ids.path resource = ids.group ++ tail := by
  cases resource <;>
  · simp only [ResourceIds.path, ResourceIds.storageAccount, ResourceIds.listKeys,
      ResourceIds.container, ResourceIds.managementPolicy, ResourceIds.roleAssignment,
      ResourceIds.vnet, ResourceIds.subnet, ResourceIds.privateEndpoint, ResourceIds.privateZone,
      ResourceIds.vnetLink, ResourceIds.addressRecord, ToString.toString, String.append_assoc]
    exact ⟨_, rfl⟩

lemma path_rooted (ids : ResourceIds) (resource : Resource) :
    ∃ rest, (ids.path resource).toList = '/' :: 's' :: rest := by
  obtain ⟨tail, htail⟩ := exists_path_eq ids resource
  rw [htail, ids.group_eq]
  simp

/-- The request for a resource around a bucket is about that resource exactly if its id is
plain. -/
theorem isReached_iff_isPlain (cluster : AzureContext) (bucketName version : String)
    (resource : Resource) :
    IsReached ((ResourceIds.of cluster bucketName).path resource) version ↔
      IsPlain ((ResourceIds.of cluster bucketName).path resource) := by
  obtain ⟨rest, hpath⟩ := path_rooted (ResourceIds.of cluster bucketName) resource
  exact ⟨isPlain_of_isReached hpath, isReached_of_isPlain hpath⟩

/-- A question mark in the name of a bucket cuts off the rest of an id. -/
theorem question_mark_misses :
    ¬ ∀ (cluster : AzureContext) (bucketName version : String) (resource : Resource),
      IsReached ((ResourceIds.of cluster bucketName).path resource) version := by
  intro h
  obtain ⟨rest, hpath⟩ := path_rooted (.of default "loki?x") .privateEndpoint
  have hplain := isPlain_of_isReached hpath (h default "loki?x" networkVersion .privateEndpoint)
  exact hplain.chars '?' (by decide) (by decide)

end BucketOperator.Azure
