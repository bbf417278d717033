import Mathlib.Data.Nat.Digits.Defs
import ImportWeights.Proofs.Repository.Reading
import ImportWeights.Proofs.Repository.Segment
import ImportWeights.Proofs.Url.HostAlone

/-! # Hosts alone: who is asked, and for what

A URL of a host alone is a locator for that host, so it is valid where the host is the expected
one. The last part of its text is the port, or the host itself. -/

namespace ImportWeights.Repository

open ImportWeights.Text ImportWeights.Url

variable {host : List Char} {port : Option Nat} {scheme : RemoteScheme} {slashes : Nat}

/-! ## The locator -/

theorem length_portText_le (fits : ∀ number ∈ port, number < 65536) :
    (portText port).length ≤ 6 := by
  cases port with
  | none => exact Nat.zero_le 6
  | some number =>
    have digits := Nat.toDigits_length 10 number 5 (by decide)
      ((fits number rfl).trans (by decide))
    exact Nat.succ_le_succ digits

theorem length_encode_authority (h : HostName host) (port : Option Nat) :
    (Utf8.encode (Authority.mk none host port).text).length =
      host.length + (portText port).length := by
  have small : ∀ c ∈ host ++ portText port, c.toNat < 128 := by
    intro c hc
    obtain hc | rfl := mem_hostAndPort (a := ⟨none, host, port⟩) h.plain hc
    · exact small_of_isHostChar hc
    · decide
  rw [Authority.text, Authority.hostAndPort, Utf8.encode_of_small small, List.length_map,
    List.length_append]

theorem lengthToPath_le (h : HostName host) (fits : ∀ number ∈ port, number < 65536)
    (slashes : Nat) :
    lengthToPath (Utf8.encode (host ++ (portText port ++ List.replicate slashes '/'))) ≤
      maxPartLength := by
  have plain := h.authority port
  have filled := encode_text_ne_nil plain
  have bytes := byte_of_authority plain
  have size := length_encode_authority h port
  have hostShort := h.short
  have portShort := length_portText_le fits
  have whole : host ++ (portText port ++ List.replicate slashes '/') =
      (Authority.mk none host port).text ++ List.replicate slashes '/' :=
    (List.append_assoc _ _ _).symm
  rw [whole, Utf8.encode_append, maxPartLength]
  cases slashes with
  | zero =>
    have nothing : Utf8.encode (List.replicate 0 '/') = [] := rfl
    rw [nothing, List.append_nil, lengthToPath_of_no_path filled bytes, size]
    omega
  | succ more =>
    have slash : Utf8.encode (List.replicate (more + 1) '/') =
        47 :: Utf8.encode (List.replicate more '/') := rfl
    rw [slash, lengthToPath_of_path filled bytes, size]
    omega

theorem locator_eq_fromUrl : Locator.parse (String.ofList (hostUrl scheme host port slashes)) =
    fromUrl scheme.name (host ++ (portText port ++ List.replicate slashes '/'))
      (hostUrl scheme host port slashes) :=
  parse_schemeUrl _ _

/-- Without a path, a URL is refused under the schemes that have no path of their own. -/
theorem locator_of_fits (h : HostName host) (scheme : RemoteScheme) (slashes : Nat)
    (fits : ∀ number ∈ port, number < 65536) :
    ∃ u, HostAlone scheme.name host (isSpecialScheme scheme.name = false ∧ slashes = 0) u ∧
      Locator.parse (String.ofList (hostUrl scheme host port slashes)) =
        if isSpecialScheme scheme.name = false ∧ slashes = 0 then
          .error (.missingPath (String.ofList (hostUrl scheme host port slashes)) .url)
        else
          .ok ⟨String.ofList u.scheme, none, u.host.map String.ofList, String.ofList u.path⟩ := by
  have short := lengthToPath_le h fits slashes
  obtain ⟨u, read, alone⟩ := parse_hostUrl h scheme slashes fits
  refine ⟨u, alone, ?_⟩
  rw [locator_eq_fromUrl]
  by_cases bare : isSpecialScheme scheme.name = false ∧ slashes = 0
  · have schemeShort : (Utf8.encode scheme.name).length ≤ maxPartLength := by
      cases scheme <;> decide
    have pathless : ((decide (u.scheme = "git".toList) || decide (u.scheme = "ssh".toList)) &&
        decide (u.path = [])) = true := by
      rw [alone.path.mpr bare, alone.scheme]
      cases scheme with
      | https => exact absurd bare.1 (by decide)
      | http => exact absurd bare.1 (by decide)
      | ssh => rfl
      | git => rfl
    rw [if_pos bare, fromUrl]
    simp only [Nat.not_lt.mpr short, Nat.not_lt.mpr schemeShort, read, pathless]
    rfl
  · have nobody : userOf .url u = .ok none := by
      rw [userOf, alone.username, alone.password]
      rfl
    rw [if_neg bare, fromUrl_of_read short read (mt alone.path.mp bare) alone.rooted nobody]

theorem locator_of_large_port (h : HostName host) (scheme : RemoteScheme) (slashes : Nat)
    {number : Nat} (large : 65536 ≤ number) :
    ∃ e, Locator.parse (String.ofList (hostUrl scheme host (some number) slashes)) = .error e := by
  rw [locator_eq_fromUrl]
  exact fromUrl_of_unread (parse_of_large_port h scheme slashes large)

/-! ## Validation -/

variable {expected : String}

theorem isShorthand_hostUrl :
    isShorthand (String.ofList (hostUrl scheme host port slashes)) expected = false :=
  isShorthand_schemeUrl _ _ _

theorem validate_hostUrl (h : HostName expected.toList) (scheme : RemoteScheme) (slashes : Nat)
    (fits : ∀ number ∈ port, number < 65536) :
    let url := String.ofList (hostUrl scheme expected.toList port slashes)
    validate url expected =
      if isSpecialScheme scheme.name = false ∧ slashes = 0 then
        .error (.invalidUrl url (LocatorError.missingPath url .url).message)
      else .ok () := by
  intro url
  obtain ⟨u, alone, located⟩ := locator_of_fits h scheme slashes fits
  obtain ⟨read, hread, same⟩ := alone.host
  have expectedHost : sameHost (String.ofList read) expected = true := by
    simpa [sameHost] using same
  rw [validate, isShorthand_hostUrl, located, hread]
  by_cases bare : isSpecialScheme scheme.name = false ∧ slashes = 0
  · simp only [if_pos bare]
    rfl
  · simp [bare, expectedHost]

theorem validate_of_large_port (h : HostName expected.toList) (scheme : RemoteScheme)
    (slashes : Nat) {number : Nat} (large : 65536 ≤ number) :
    let url := String.ofList (hostUrl scheme expected.toList (some number) slashes)
    ∃ reason, validate url expected = .error (.invalidUrl url reason) := by
  intro url
  obtain ⟨e, refused⟩ := locator_of_large_port h scheme slashes large
  refine ⟨e.message, ?_⟩
  rw [validate, isShorthand_hostUrl, refused]
  rfl

/-! ## The last part -/

/-- What is taken for the repository: the port if there is one, else the host. -/
def hostSegment (host : List Char) (port : Option Nat) : List Char :=
  match port with
  | none => dropGitSuffix host
  | some number => Nat.toDigits 10 number

theorem repositorySegment_hostUrl (h : HostName host) (scheme : RemoteScheme)
    (port : Option Nat) (slashes : Nat) :
    repositorySegment (String.ofList (hostUrl scheme host port slashes)) =
      String.ofList (hostSegment host port) := by
  have plain (c : Char) (hc : isHostChar c = true) : c ≠ '/' ∧ c ≠ ':' :=
    of_isHostChar (p := fun c => c ≠ '/' ∧ c ≠ ':') (by decide) hc
  cases port with
  | none =>
    have cut : hostUrl scheme host none slashes =
        (scheme.name ++ [':', '/']) ++ '/' :: (host ++ List.replicate slashes '/') := by
      simp [hostUrl, portText]
    rw [cut, repositorySegment_eq _ (.inl rfl) h.ne_nil fun c hc => plain c (h.plain c hc)]
    rfl
  | some number =>
    have cut : hostUrl scheme host (some number) slashes =
        (scheme.name ++ "://".toList ++ host) ++
          ':' :: (Nat.toDigits 10 number ++ List.replicate slashes '/') := by
      simp [hostUrl, portText]
    have digits : ∀ c ∈ Nat.toDigits 10 number, c ≠ '/' ∧ c ≠ ':' :=
      fun c hc => plain c (isHostChar_of_mem_toDigits hc)
    have noSuffix : ¬ ".git".toList <:+ Nat.toDigits 10 number := by
      intro suffix
      have dot := suffix.mem (a := '.') (by decide)
      exact absurd (isDigit_of_mem_toDigits dot) (by decide)
    rw [cut, repositorySegment_eq _ (.inr rfl) Nat.toDigits_ne_nil digits,
      dropGitSuffix_of_not_suffix noSuffix]
    rfl

theorem hostSegment_begins (h : HostName host) (port : Option Nat) :
    ∃ first rest, hostSegment host port = first :: rest ∧ first ≠ '.' := by
  cases port with
  | none =>
    obtain ⟨first, rest, rfl, begins⟩ := h.begins
    have noDot : first ≠ '.' := by
      rintro rfl
      exact absurd begins (by decide)
    obtain ⟨kept, same⟩ := dropGitSuffix_cons rest noDot
    exact ⟨first, kept, same, noDot⟩
  | some number =>
    obtain ⟨first, rest, digits⟩ :=
      List.exists_cons_of_ne_nil (Nat.toDigits_ne_nil (n := number) (b := 10))
    refine ⟨first, rest, digits, ?_⟩
    rintro rfl
    exact absurd (isDigit_of_mem_toDigits (digits ▸ List.mem_cons_self)) (by decide)

end ImportWeights.Repository
