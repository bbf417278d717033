import ImportWeights.Proofs.Url.Authority

/-! # URLs of a host alone

A host, maybe a port, and any number of slashes: so much is read of such a URL, under a special
scheme and under any other, that the host is known and that nothing but slashes is in the path. -/

namespace ImportWeights.Url

open ImportWeights.Text

/-- A scheme, a host, maybe a port, and then slashes only. -/
def hostUrl (scheme : RemoteScheme) (host : List Char) (port : Option Nat) (slashes : Nat) :
    List Char :=
  scheme.name ++ "://".toList ++ (host ++ (portText port ++ List.replicate slashes '/'))

variable {c : Char} {cs host rest : List Char} {special : Bool} {port : Option Nat}
  {scheme : RemoteScheme} {slashes : Nat}

/-! ## The characters -/

/-- The characters of a URL of a host alone. -/
def isPlain (c : Char) : Bool := isHostChar c || c == ':' || c == '/'

theorem isPlain_of_isHostChar (h : isHostChar c = true) : isPlain c = true := by
  simp [isPlain, h]

theorem small_of_isPlain (h : isPlain c = true) : c.toNat < 128 := by
  simp only [isPlain, Bool.or_eq_true, beq_iff_eq] at h
  obtain (h | rfl) | rfl := h
  · exact small_of_isHostChar h
  · decide
  · decide

theorem of_isPlain {p : Char → Prop}
    (h : ∀ n < 128, isPlain (Char.ofNat n) = true → p (Char.ofNat n))
    (plain : isPlain c = true) : p c :=
  of_ascii (p := fun c => isPlain c = true → p c) h (small_of_isPlain plain) plain

theorem isPlain_of_mem_name : ∀ c ∈ scheme.name, isPlain c = true := by
  rw [← List.all_eq_true]
  cases scheme <;> rfl

theorem isPlain_of_mem_hostUrl (plain : ∀ c ∈ host, isHostChar c = true)
    (h : c ∈ hostUrl scheme host port slashes) : isPlain c = true := by
  rw [hostUrl, ← List.append_assoc host, List.mem_append, List.mem_append, List.mem_append] at h
  obtain (h | h) | h | h := h
  · exact isPlain_of_mem_name c h
  · have mark : "://".toList.all isPlain = true := rfl
    exact List.all_eq_true.mp mark c h
  · obtain h | rfl := mem_hostAndPort (a := ⟨none, host, port⟩) plain h
    · exact isPlain_of_isHostChar h
    · rfl
  · rw [List.eq_of_mem_replicate h]
    rfl

/-! ## The parts of a URL -/

theorem endsAuthority_slashes (slashes : Nat) : EndsAuthority (List.replicate slashes '/') := by
  cases slashes with
  | zero => exact .inl rfl
  | succ n => exact .inr ⟨_, rfl⟩

theorem pathAfterAuthority_eq_nil_iff :
    (pathAfterAuthority special (List.replicate slashes '/')).1 = [] ↔
      special = false ∧ slashes = 0 := by
  cases slashes with
  | zero => cases special <;> simp [pathAfterAuthority]
  | succ n =>
    simp [pathAfterAuthority, List.replicate_succ, segments_ne_nil]

/-- What is read of a URL of a host alone. -/
structure HostAlone (scheme host : List Char) (bare : Prop) (u : Url) : Prop where
  scheme : u.scheme = scheme
  username : u.username = []
  password : u.password = none
  host : ∃ read, u.host = some read ∧ read.map lowerAscii = host.map lowerAscii
  rooted : u.isFlat = false
  path : u.path = [] ↔ bare

theorem HostName.authority (h : HostName host) (port : Option Nat) :
    Authority.Plain ⟨none, host, port⟩ :=
  ⟨by simp, h.ne_nil, h.plain⟩

theorem parse_hostUrl_eq (h : HostName host) : parse (hostUrl scheme host port slashes) =
    if port.all (· < 65536) then
      .ok (Authority.url ⟨none, host, port⟩ scheme.name (isSpecialScheme scheme.name)
        (readHost (isSpecialScheme scheme.name) host) (List.replicate slashes '/'))
    else .error .port := by
  have whole : hostUrl scheme host port slashes =
      schemeUrl scheme ((Authority.mk none host port).text ++ List.replicate slashes '/') :=
    congrArg (schemeUrl scheme) (List.append_assoc _ _ _).symm
  have tidied : tidy (hostUrl scheme host port slashes) = hostUrl scheme host port slashes :=
    tidy_eq fun c hc => of_isPlain (p := fun c => 0x20 < c.toNat) (by decide)
      (isPlain_of_mem_hostUrl h.plain hc)
  exact parse_authority scheme (h.authority port) (endsAuthority_slashes slashes) (tidied.trans whole)
    (hostOf_plainName h.plainName _) (readHost_ne_nil h.ne_nil _)

theorem url_hostAlone (scheme host : List Char) (port : Option Nat) :
    HostAlone scheme host (special = false ∧ slashes = 0)
      (Authority.url ⟨none, host, port⟩ scheme special (readHost special host)
        (List.replicate slashes '/')) where
  scheme := rfl
  username := rfl
  password := rfl
  host := ⟨readHost special host, rfl, lowered_readHost special host⟩
  rooted := rfl
  path := pathAfterAuthority_eq_nil_iff

/-- A URL of a host alone is read, unless its port is too large. -/
theorem parse_hostUrl (h : HostName host) (scheme : RemoteScheme) (slashes : Nat)
    (fits : ∀ number ∈ port, number < 65536) :
    ∃ u, parse (hostUrl scheme host port slashes) = .ok u ∧
      HostAlone scheme.name host (isSpecialScheme scheme.name = false ∧ slashes = 0) u := by
  rw [parse_hostUrl_eq h, if_pos (all_fits fits)]
  exact ⟨_, rfl, url_hostAlone _ _ _⟩

theorem parse_of_large_port (h : HostName host) (scheme : RemoteScheme) (slashes : Nat)
    {number : Nat} (large : 65536 ≤ number) :
    parse (hostUrl scheme host (some number) slashes) = .error .port := by
  rw [parse_hostUrl_eq h, if_neg (by simpa using large)]

end ImportWeights.Url
