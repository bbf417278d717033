import ImportWeights.Proofs.Url.Authority

/-! # How far a URL's parts reach

What stands before the path of a URL is read up to a slash at the most, and whatever follows the
slash is left as it stands. Each part stops there, and so does what is read part by part
(`StopsAtSlash.bind`); the rest of the URL is read off what is left (`afterSlashes_eq`). -/

namespace ImportWeights.Url

open ImportWeights.Text

variable {α β : Type} {special : Bool} {scheme front : List Char}

/-- Reads up to a slash at the most: whatever follows a slash is left as it stands. -/
def StopsAtSlash (read : List Char → Except UrlError (α × List Char)) : Prop :=
  ∀ front, ∃ out : Except UrlError (α × List Char), ∀ back,
    read (front ++ '/' :: back) = out.map fun found => (found.1, found.2 ++ '/' :: back)

/-- Reading on after a reader that stops. -/
theorem StopsAtSlash.bind {read : List Char → Except UrlError (α × List Char)}
    {next : α × List Char → Except UrlError (β × List Char)} (h : StopsAtSlash read)
    (hnext : ∀ a, StopsAtSlash fun cs => next (a, cs)) :
    StopsAtSlash fun cs => read cs >>= next := by
  intro front
  obtain ⟨out, hout⟩ := h front
  cases out with
  | error e =>
    refine ⟨.error e, fun back => ?_⟩
    dsimp only
    rw [hout back]
    rfl
  | ok found =>
    obtain ⟨more, hmore⟩ := hnext found.1 found.2
    refine ⟨more, fun back => ?_⟩
    dsimp only
    rw [hout back]
    exact hmore back

/-! ## The parts of an authority -/

theorem endsAuthority_slash (special : Bool) : (!endsAuthority special '/') = false := by
  cases special <;> rfl

theorem stopsAtSlash_userinfo (special : Bool) : StopsAtSlash (userinfo special) := by
  intro front
  have stop := endsAuthority_slash special
  have taken (back : List Char) :
      (front ++ '/' :: back).takeWhile (fun c => !endsAuthority special c) =
        front.takeWhile fun c => !endsAuthority special c :=
    takeWhile_append_stop (p := fun c => !endsAuthority special c) stop front back
  have left (back : List Char) :
      (front ++ '/' :: back).dropWhile (fun c => !endsAuthority special c) =
        (front.dropWhile fun c => !endsAuthority special c) ++ '/' :: back :=
    dropWhile_append_stop (p := fun c => !endsAuthority special c) stop front back
  unfold userinfo
  simp only [taken, left]
  cases splitAtLast '@' (front.takeWhile fun c => !endsAuthority special c) with
  | none => exact ⟨.ok (none, front), fun back => rfl⟩
  | some parts =>
    obtain ⟨user, after⟩ := parts
    cases user with
    | nil =>
      by_cases empty : after = []
      · exact ⟨.error .emptyHost, fun back => by simp [empty, Except.map]⟩
      · refine ⟨.ok (none, after ++ front.dropWhile fun c => !endsAuthority special c),
          fun back => ?_⟩
        simp [empty, Except.map]
    | cons c user =>
      exact ⟨.ok (_, after ++ front.dropWhile fun c => !endsAuthority special c), fun back =>
        congrArg (fun rest => Except.ok (_, rest)) (List.append_assoc after _ _).symm⟩

theorem spanHost_append_slash (special inside : Bool) (front : List Char) :
    ∃ host left, ∀ back,
      spanHost special inside (front ++ '/' :: back) = (host, left ++ '/' :: back) := by
  induction front generalizing inside with
  | nil =>
    refine ⟨[], [], fun back => ?_⟩
    have stop : endsAuthority special '/' = true := by cases special <;> rfl
    simp [spanHost, stop]
  | cons c front ih =>
    by_cases ended : ((c == ':' && !inside) || endsAuthority special c) = true
    · refine ⟨[], c :: front, fun back => ?_⟩
      rw [List.cons_append, spanHost, if_pos ended]
    · obtain ⟨host, left, h⟩ := ih (if c = '[' then true else if c = ']' then false else inside)
      refine ⟨c :: host, left, fun back => ?_⟩
      simp only [List.cons_append, spanHost, if_neg ended, h back]

/-- A host, which is not left out before a port, nor at all under a special scheme. -/
def hostPart (special : Bool) (cs : List Char) : Except UrlError (List Char × List Char) :=
  let (hostText, rest) := spanHost special false cs
  if special && hostText = [] then .error .emptyHost
  else do
    let host ← hostOf special hostText
    if host = [] && rest.head? = some ':' then .error .emptyHost else .ok (host, rest)

theorem stopsAtSlash_hostPart (special : Bool) : StopsAtSlash (hostPart special) := by
  intro front
  obtain ⟨hostText, left, span⟩ := spanHost_append_slash special false front
  have first (back : List Char) :
      (left ++ '/' :: back).head? = some ':' ↔ left.head? = some ':' := by
    cases left <;> simp
  unfold hostPart
  simp only [span, first]
  by_cases missing : (special && hostText = []) = true
  · exact ⟨.error .emptyHost, fun back => if_pos missing⟩
  · simp only [if_neg missing]
    cases hostOf special hostText with
    | error e => exact ⟨.error e, fun back => rfl⟩
    | ok host =>
      by_cases bare : (host = [] && left.head? = some ':') = true
      · exact ⟨.error .emptyHost, fun back => if_pos bare⟩
      · exact ⟨.ok (host, left), fun back => if_neg bare⟩

theorem stopsAtSlash_portOf (usual : Option Nat) : StopsAtSlash (portOf usual) := by
  intro front
  have digits (back : List Char) :
      (front ++ '/' :: back).takeWhile isDigit = front.takeWhile isDigit :=
    takeWhile_append_stop rfl front back
  have left (back : List Char) :
      (front ++ '/' :: back).dropWhile isDigit = front.dropWhile isDigit ++ '/' :: back :=
    dropWhile_append_stop rfl front back
  unfold portOf
  simp only [digits, left]
  -- behind the digits there is the slash, or a character that ends a port or does not
  cases front.dropWhile isDigit with
  | nil =>
    by_cases bad : (!decide (digitsValue 10 (front.takeWhile isDigit) < 65536) || false) = true
    · exact ⟨.error .port, fun back => if_pos bad⟩
    · exact ⟨.ok (_, []), fun back => if_neg bad⟩
  | cons c rest =>
    by_cases bad : (!decide (digitsValue 10 (front.takeWhile isDigit) < 65536) ||
        !(c == '/' || c == '\\' || c == '?' || c == '#')) = true
    · exact ⟨.error .port, fun back => if_pos bad⟩
    · exact ⟨.ok (_, c :: rest), fun back => if_neg bad⟩

theorem stopsAtSlash_portPart (usual : Option Nat) : StopsAtSlash (portPart usual) := by
  intro front
  cases front with
  | nil => exact ⟨.ok (none, []), fun back => rfl⟩
  | cons c front =>
    by_cases colon : c = ':'
    · obtain ⟨out, h⟩ := stopsAtSlash_portOf usual front
      exact ⟨out, fun back => colon ▸ h back⟩
    · refine ⟨.ok (none, c :: front), fun back => ?_⟩
      rw [List.cons_append, portPart]
      · rfl
      · rintro more ⟨⟩
        exact colon rfl

/-! ## What comes before the path -/

/-- The path, the query and the fragment that a text stands for behind what was read of a URL. -/
def followedBy (u : Url) (rest : List Char) : Url :=
  let (path, beyond) := pathAfterAuthority (isSpecialScheme u.scheme) rest
  let (query, fragment) := queryAndFragment (isSpecialScheme u.scheme) beyond
  { u with
    path := if isFileScheme u.scheme then '/' :: path.dropWhile (· == '/') else path
    query, fragment }

/-- A URL of an authority alone. -/
def bare (scheme : List Char) (info : Option Userinfo) (host : List Char) (port : Option Nat) :
    Url :=
  { scheme, hasAuthority := true
    username := match info with
      | some i => i.username
      | none => []
    password := info.bind (·.password)
    host := if host = [] then none else some host
    port, path := [], isFlat := false, query := none, fragment := none }

/-- A user is there if a name or a password is. -/
def hasUser (info : Option Userinfo) : Bool :=
  match info with
  | none => false
  | some i => i.username != [] || i.password.isSome

/-- A user needs a host. -/
def assembled (scheme : List Char) (info : Option Userinfo) (host : List Char) (port : Option Nat)
    (rest : List Char) : Except UrlError (Url × List Char) :=
  if host = [] && hasUser info then .error .emptyHost else .ok (bare scheme info host port, rest)

/-- An authority, and what follows it. -/
def authority (scheme : List Char) (special : Bool) (cs : List Char) :
    Except UrlError (Url × List Char) :=
  userinfo special cs >>= fun user =>
    hostPart special user.2 >>= fun host =>
      portPart (defaultPort? scheme) host.2 >>= fun port =>
        assembled scheme user.1 host.1 port.1 port.2

theorem stopsAtSlash_assembled (scheme : List Char) (info : Option Userinfo) (host : List Char)
    (port : Option Nat) : StopsAtSlash (assembled scheme info host port) := by
  intro front
  unfold assembled
  split
  · exact ⟨.error .emptyHost, fun back => rfl⟩
  · exact ⟨.ok (bare scheme info host port, front), fun back => rfl⟩

theorem stopsAtSlash_authority (scheme : List Char) (special : Bool) :
    StopsAtSlash (authority scheme special) := by
  refine (stopsAtSlash_userinfo special).bind fun info => ?_
  dsimp only
  refine (stopsAtSlash_hostPart special).bind fun host => ?_
  dsimp only
  refine (stopsAtSlash_portPart (defaultPort? scheme)).bind fun port => ?_
  exact stopsAtSlash_assembled scheme info host port

/-- What is assembled is read on. -/
theorem assembled_followedBy (plain : isFileScheme scheme = false) (info : Option Userinfo)
    (host : List Char) (port : Option Nat) (rest : List Char) :
    (assembled scheme info host port rest).map (fun found => found.1.followedBy found.2) =
      if host = [] && hasUser info then .error .emptyHost
      else
        let (path, beyond) := pathAfterAuthority (isSpecialScheme scheme) rest
        let (query, fragment) := queryAndFragment (isSpecialScheme scheme) beyond
        .ok { bare scheme info host port with path, query, fragment } := by
  unfold assembled
  split
  · rfl
  · have noFile : isFileScheme (bare scheme info host port).scheme = false := plain
    simp only [Except.map, followedBy, noFile]
    rfl

theorem portPart_of_no_colon {usual : Option Nat} {cs : List Char}
    (h : ∀ more, cs = ':' :: more → False) : portPart usual cs = .ok (none, cs) := by
  unfold portPart
  split
  · exact (h _ rfl).elim
  · rfl

theorem except_map_bind {γ : Type} (x : Except UrlError α) (next : α → Except UrlError β)
    (f : β → γ) :
    (x >>= next).map f = x >>= fun a => (next a).map f := by
  cases x <;> rfl

/-- After two slashes there is an authority, and then the rest of the URL. -/
theorem afterSlashes_eq (plain : isFileScheme scheme = false) (cs : List Char) :
    afterSlashes scheme (isSpecialScheme scheme) cs =
      (authority scheme (isSpecialScheme scheme) cs).map
        fun found => found.1.followedBy found.2 := by
  simp only [authority, except_map_bind, assembled_followedBy plain]
  unfold afterSlashes hostPart
  refine bind_congr fun user => ?_
  obtain ⟨info, rest⟩ := user
  dsimp only
  generalize isSpecialScheme scheme = special
  cases spanHost special false rest with
  | mk hostText left =>
    by_cases missing : (special && decide (hostText = [])) = true
    · simp only [missing, if_true]
      rfl
    · simp only [if_neg missing, bind_assoc]
      -- a special scheme reads the host in its own way, and everything after it like any other
      cases special
      all_goals
        refine bind_congr fun host => ?_
        by_cases unnamed : (decide (host = []) && decide (left.head? = some ':')) = true
        · rw [if_pos unnamed, if_pos unnamed]
          rfl
        · rw [if_neg unnamed, if_neg unnamed]
          split
          · refine bind_congr fun port => ?_
            split <;> rfl
          · rename_i noColon
            change _ = portPart (defaultPort? scheme) left >>= _
            rw [portPart_of_no_colon noColon]
            change ite _ _ _ = ite _ _ _
            split <;> rfl

end ImportWeights.Url
