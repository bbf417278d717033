import ImportWeights.Proofs.Repository.Reading
import ImportWeights.Proofs.Url.DomainName

/-! # Only the host decides

A user, a port and a path say nothing about who is asked. So a URL on a domain is judged by the name
of that domain, even where the expected host stands in the user or in the path. -/

namespace ImportWeights.Repository

open ImportWeights.Text ImportWeights.Url

variable {name : List Char} {scheme : RemoteScheme} {a : Authority}

/-- A host is compared in the same way before it is read and after. -/
theorem sameHost_readHost (special : Bool) (host : List Char) (expected : String) :
    sameHost (String.ofList (readHost special host)) expected =
      sameHost (String.ofList host) expected := by
  simp only [sameHost, String.toList_ofList, lowered_readHost]

theorem path_ne_nil (scheme : List Char) (special : Bool) (name left : List Char) :
    (a.url scheme special name ('/' :: left)).path ≠ [] := by
  simp [Authority.url, ofAuthority, pathAfterAuthority, segments_ne_nil]

/-- A locator has the host that its URL has, whatever path follows. -/
theorem locator_of_authority (h : a.Plain) (fits : ∀ number ∈ a.port, number < 65536)
    (short : (Utf8.encode a.text).length ≤ maxPartLength) (scheme : RemoteScheme)
    (read : hostOf (isSpecialScheme scheme.name) a.host = .ok name) (named : name ≠ [])
    (path : List Char) :
    ∃ locator, Locator.parse (String.ofList (schemeUrl scheme (a.text ++ '/' :: path))) =
      .ok locator ∧ locator.host = some (String.ofList name) := by
  obtain ⟨left, tidied⟩ := tidy_authority h scheme path
  have parsed := parse_authority scheme h (.inr ⟨left, rfl⟩) tidied read named
  rw [if_pos (all_fits fits)] at parsed
  obtain ⟨user, known⟩ := userOf_authority h .url scheme.name (isSpecialScheme scheme.name) name
    ('/' :: left)
  have slash : Utf8.encode ('/' :: path) = 47 :: Utf8.encode path := rfl
  have toPath : lengthToPath (Utf8.encode (a.text ++ '/' :: path)) ≤ maxPartLength := by
    rw [Utf8.encode_append, slash,
      lengthToPath_of_path (encode_text_ne_nil h) (byte_of_authority h)]
    exact short
  rw [parse_schemeUrl, fromUrl_of_read toPath parsed (path_ne_nil _ _ _ _) rfl known]
  exact ⟨_, rfl, rfl⟩

/-- A URL is accepted if its host is the expected one but for the case of its letters. If not, it is
refused for its host, and for nothing else. -/
theorem validate_eq_of_domain (scheme : RemoteScheme) (a : Authority)
    (user : ∀ user ∈ a.user, user ≠ [] ∧ ∀ c ∈ user, isUserChar c = true)
    (host : isDomainName a.host = true) (port : ∀ number ∈ a.port, number < 65536)
    (short : (Utf8.encode a.text).length ≤ maxPartLength) (path expected : String) :
    validate (String.ofList (schemeUrl scheme (a.text ++ '/' :: path.toList))) expected =
      if sameHost (String.ofList a.host) expected then .ok ()
      else .error (.unsupportedHost
        (String.ofList (readHost (isSpecialScheme scheme.name) a.host)) expected) := by
  have plainName := plainName_of_isDomainName host
  have plain : a.Plain := ⟨user, plainName.filled, plainName.plain⟩
  obtain ⟨locator, parsed, found⟩ := locator_of_authority plain port short scheme
    (hostOf_plainName plainName _) (readHost_ne_nil plainName.filled _) path.toList
  rw [validate, isShorthand_schemeUrl, parsed]
  simp only [found, sameHost_readHost, Bool.false_eq_true, if_false]

/-- Neither the user nor the path is taken for the host, and the case of a letter says nothing. -/
theorem validate_of_expected_elsewhere :
    let path := "@github:x\\?#%40 github"
    let other : Authority := ⟨some "github".toList, "git-lab".toList, some 443⟩
    let here : Authority := ⟨some "git".toList, "GitHub".toList, some 22⟩
    (∀ a ∈ [other, here], (∀ user ∈ a.user, user ≠ [] ∧ ∀ c ∈ user, isUserChar c = true) ∧
      isDomainName a.host = true ∧ (∀ number ∈ a.port, number < 65536) ∧
      (Utf8.encode a.text).length ≤ maxPartLength) ∧
    validate (String.ofList (schemeUrl .https (other.text ++ '/' :: path.toList))) "github" =
      .error (.unsupportedHost "git-lab" "github") ∧
    validate (String.ofList (schemeUrl .ssh (here.text ++ '/' :: path.toList))) "github" =
      .ok () := by
  intro path other here
  have given : ∀ a ∈ [other, here],
      (∀ user ∈ a.user, user ≠ [] ∧ ∀ c ∈ user, isUserChar c = true) ∧
        isDomainName a.host = true ∧ (∀ number ∈ a.port, number < 65536) ∧
        (Utf8.encode a.text).length ≤ maxPartLength := by
    have letters : ∀ c ∈ "github".toList, isUserChar c = true := List.all_eq_true.mp rfl
    have letters' : ∀ c ∈ "git".toList, isUserChar c = true := List.all_eq_true.mp rfl
    rw [List.forall_mem_cons, List.forall_mem_singleton]
    refine ⟨⟨?_, by decide, by decide, by decide⟩, ?_, by decide, by decide, by decide⟩
    · rintro user ⟨⟩
      exact ⟨by decide, letters⟩
    · rintro user ⟨⟩
      exact ⟨by decide, letters'⟩
  obtain ⟨users, hosts, ports, shorts⟩ := given other (by simp)
  obtain ⟨users', hosts', ports', shorts'⟩ := given here (by simp)
  have differs : sameHost (String.ofList other.host) "github" = false := by
    rw [sameHost, String.toList_ofList]
    decide
  have agrees : sameHost (String.ofList here.host) "github" = true := by
    rw [sameHost, String.toList_ofList]
    decide
  refine ⟨given, ?_, ?_⟩
  · rw [validate_eq_of_domain .https other users hosts ports shorts path "github", differs]
    rfl
  · rw [validate_eq_of_domain .ssh here users' hosts' ports' shorts' path "github", agrees]
    rfl

end ImportWeights.Repository
