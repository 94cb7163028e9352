import BucketOperator.Proofs.Azure.Addressing
import BucketOperator.Proofs.Url.Authority

/-!
# Requests stay where they are configured to go

Ids of resources and token endpoints are put together from texts of a record, whatever characters
these have. The ids begin with a slash and a letter, and what a token endpoint adds to its
authority begins with a slash, so neither can name another host.
-/

namespace BucketOperator.Azure

/-- The URL of a resource is always formed, and leads where the base does. -/
lemma exists_resourceUrl_origin {base : Url} {segments : List String}
    (hspecial : Url.isSpecial base.scheme = true) (hbase : base.path = .segments segments)
    (ids : ResourceIds) (resource : Resource) (version : String) :
    ∃ url, Client.resourceUrl base (ids.path resource) version = .ok url ∧
      url.origin = base.origin := by
  obtain ⟨rest, hpath⟩ := path_rooted ids resource
  obtain ⟨query, fragment, hjoin⟩ := Url.join_rooted hspecial hbase hpath (by decide) (by decide)
    (by decide) (by decide)
  rw [Client.resourceUrl, hjoin]
  exact ⟨_, rfl, rfl⟩

lemma dropTrailingSlashes_eq (text : String) : ∃ slashes : List Char,
    (∀ c ∈ slashes, c = '/') ∧
      text.toList = (dropTrailingSlashes text).toList ++ slashes := by
  refine ⟨text.toList.rtakeWhile (· == '/'), ?_, ?_⟩
  · intro c hc
    exact eq_of_beq (List.mem_rtakeWhile_imp (p := (· == '/')) hc)
  · rw [dropTrailingSlashes, String.toList_ofList]
    exact List.rdropWhile_append_rtakeWhile.symm

/-- The token endpoint of a tenant is always formed, and leads where its authority does. -/
lemma exists_tokenEndpoint_origin {authority : String} {home : Url}
    (hparse : Url.parse authority = .ok home) (hspecial : Url.isSpecial home.scheme = true)
    (hcounts : Url.significant authority = authority.toList) (tenantId : String) :
    ∃ url, tokenEndpoint authority tenantId = .ok url ∧ url.origin = home.origin := by
  obtain ⟨slashes, hslashes, hauthority⟩ := dropTrailingSlashes_eq authority
  have hendpoint : (s!"{dropTrailingSlashes authority}/{tenantId}/oauth2/v2.0/token").toList =
      (dropTrailingSlashes authority).toList ++ '/' ::
        (tenantId.toList ++ "/oauth2/v2.0/token".toList) := by
    simp [ToString.toString]
  obtain ⟨url, hurl, horigin⟩ :=
    Url.exists_parse_append hparse hspecial hcounts hslashes hauthority hendpoint
  rw [tokenEndpoint, parseUrl, hurl]
  exact ⟨url, rfl, horigin⟩

/-- Whatever texts ids and tenants are made of, the URL of a resource is formed and leads to the
scheme, host and port of the client's base, and the token endpoint of a tenant is formed and leads
to those of its authority. -/
theorem requests_keep_origin {endpoint authority : String} {base home : Url}
    (hbase : Url.parse endpoint = .ok base) (hspecial : Url.isSpecial base.scheme = true)
    (hhome : Url.parse authority = .ok home) (hweb : Url.isSpecial home.scheme = true)
    (hcounts : Url.significant authority = authority.toList) :
    (∃ host, base.host = some host) ∧ (∃ host, home.host = some host) ∧
      (∀ (ids : ResourceIds) (resource : Resource) (version : String), ∃ url,
        Client.resourceUrl base (ids.path resource) version = .ok url ∧
          url.origin = base.origin) ∧
      ∀ tenantId : String, ∃ url,
        tokenEndpoint authority tenantId = .ok url ∧ url.origin = home.origin := by
  obtain ⟨⟨segments, hsegments⟩, hhost⟩ := Url.exists_segments hbase hspecial
  refine ⟨hhost, (Url.exists_segments hhome hweb).2, ?_, ?_⟩
  · intro ids resource version
    exact exists_resourceUrl_origin hspecial hsegments ids resource version
  · intro tenantId
    exact exists_tokenEndpoint_origin hhome hweb hcounts tenantId

/-- The address of Azure AD. -/
def authorityUrl : Url where
  scheme := "https"
  username := ""
  password := none
  host := some "login.microsoftonline.com"
  port := none
  path := .segments [""]
  query := none
  fragment := none

lemma parse_authorityHost : Url.parse authorityHost = .ok authorityUrl := by
  decide +kernel

/-- Names that look like other hosts do not lead there. -/
theorem requests_keep_origin_hostile :
    (∃ url, Client.resourceUrl managerUrl
        ((ResourceIds.mk "\\evil.example" "@evil.example:81/../.." "?" "#" "//evil.example").path
          (.roleAssignment "https://evil.example")) storageVersion = .ok url ∧
      url.origin = ("https", some "management.azure.com", none)) ∧
    ∃ url, tokenEndpoint authorityHost "/\\\t@evil.example:81?#" = .ok url ∧
      url.origin = ("https", some "login.microsoftonline.com", none) := by
  obtain ⟨-, -, hresource, htoken⟩ := requests_keep_origin parse_managerEndpoint (by decide)
    parse_authorityHost (by decide) (by decide +kernel)
  exact ⟨hresource _ _ _, htoken _⟩

end BucketOperator.Azure
