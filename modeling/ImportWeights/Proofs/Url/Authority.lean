import ImportWeights.Proofs.Url.HostName
import ImportWeights.Url.Parse

/-! # Authorities

What stands between the two slashes of a URL and its path: maybe a user, a host, and maybe a port.
All of it is read in the same way whatever follows it, so that the host is known
(`afterSlashes_authority`). -/

namespace ImportWeights.Url

open ImportWeights.Text

/-- The schemes that repositories are asked for with. -/
inductive RemoteScheme where
  | https
  | http
  | ssh
  | git
deriving DecidableEq, Repr

namespace RemoteScheme

def name : RemoteScheme → List Char
  | https => "https".toList
  | http => "http".toList
  | ssh => "ssh".toList
  | git => "git".toList

end RemoteScheme

/-- The text of a URL with one of the schemes. -/
def schemeUrl (scheme : RemoteScheme) (rest : List Char) : List Char :=
  scheme.name ++ "://".toList ++ rest

def portText : Option Nat → List Char
  | none => []
  | some n => ':' :: Nat.toDigits 10 n

structure Authority where
  user : Option (List Char)
  host : List Char
  port : Option Nat
deriving DecidableEq, Repr

/-- A host that may be followed by a port. -/
def Authority.hostAndPort (a : Authority) : List Char := a.host ++ portText a.port

def Authority.text (a : Authority) : List Char :=
  match a.user with
  | none => a.hostAndPort
  | some user => user ++ '@' :: a.hostAndPort

/-- The characters of users: letters, digits, and all that is not ASCII. -/
def isUserChar (c : Char) : Bool := isAsciiAlpha c || isDigit c || decide (0x80 ≤ c.toNat)

/-- An authority without any character that could be taken for a sign. -/
structure Authority.Plain (a : Authority) : Prop where
  user : ∀ user ∈ a.user, user ≠ [] ∧ ∀ c ∈ user, isUserChar c = true
  filled : a.host ≠ []
  host : ∀ c ∈ a.host, isHostChar c = true

/-- What may follow an authority: a slash, or nothing. -/
def EndsAuthority (rest : List Char) : Prop := rest = [] ∨ ∃ more, rest = '/' :: more

variable {c : Char} {cs host name rest : List Char} {special : Bool} {port : Option Nat}
  {scheme : RemoteScheme} {a : Authority}

/-! ## The characters -/

/-- The characters of authorities. -/
def isAuthorityChar (c : Char) : Bool := isUserChar c || isHostChar c || c == '@' || c == ':'

/-- The characters of a class are none of those outside it. -/
theorem ne_of_class {p : Char → Bool} {d : Char} (h : p c = true) (hd : p d = false) : c ≠ d := by
  rintro rfl
  exact Bool.false_ne_true (hd.symm.trans h)

theorem isAuthorityChar_of_isHostChar (h : isHostChar c = true) : isAuthorityChar c = true := by
  simp [isAuthorityChar, h]

/-- The characters of a host and a port. -/
theorem mem_hostAndPort (plain : ∀ c ∈ a.host, isHostChar c = true) (h : c ∈ a.hostAndPort) :
    isHostChar c = true ∨ c = ':' := by
  obtain h | h := List.mem_append.mp h
  · exact .inl (plain c h)
  · cases hport : a.port with
    | none => simp [portText, hport] at h
    | some n =>
      rw [hport] at h
      obtain rfl | h := List.mem_cons.mp h
      · exact .inr rfl
      · exact .inl (isHostChar_of_mem_toDigits h)

theorem isAuthorityChar_of_mem_hostAndPort (plain : ∀ c ∈ a.host, isHostChar c = true)
    (h : c ∈ a.hostAndPort) : isAuthorityChar c = true := by
  obtain h | rfl := mem_hostAndPort plain h
  · exact isAuthorityChar_of_isHostChar h
  · rfl

theorem Authority.Plain.char (h : a.Plain) (hc : c ∈ a.text) : isAuthorityChar c = true := by
  rw [Authority.text] at hc
  split at hc
  · exact isAuthorityChar_of_mem_hostAndPort h.host hc
  · rename_i user huser
    obtain hc | hc := List.mem_append.mp hc
    · simp [isAuthorityChar, (h.user user huser).2 c hc]
    · obtain rfl | hc := List.mem_cons.mp hc
      · rfl
      · exact isAuthorityChar_of_mem_hostAndPort h.host hc

theorem Authority.Plain.text_ne_nil (h : a.Plain) : a.text ≠ [] := by
  rw [Authority.text]
  split
  · exact List.append_ne_nil_of_left_ne_nil h.filled _
  · simp

theorem endsAuthority_of_isAuthorityChar (h : isAuthorityChar c = true) (special : Bool) :
    endsAuthority special c = false := by
  have slash : c ≠ '/' := ne_of_class h rfl
  have question : c ≠ '?' := ne_of_class h rfl
  have hash : c ≠ '#' := ne_of_class h rfl
  have back : c ≠ '\\' := ne_of_class h rfl
  simp [endsAuthority, slash, question, hash, back]

/-- No character of an authority is a blank or a control. -/
theorem shown_of_isAuthorityChar (h : isAuthorityChar c = true) : 0x20 < c.toNat := by
  by_cases small : c.toNat < 128
  · exact of_ascii (p := fun c => isAuthorityChar c = true → 0x20 < c.toNat) (by decide) small h
  · omega

/-! ## Cutting an authority -/

theorem takeWhile_authority (h : a.Plain) (ended : EndsAuthority rest) :
    (a.text ++ rest).takeWhile (fun c => !endsAuthority special c) = a.text := by
  rw [List.takeWhile_append_of_pos fun c hc => by
    rw [endsAuthority_of_isAuthorityChar (h.char hc)]; rfl]
  obtain rfl | ⟨more, rfl⟩ := ended
  · simp
  · simp [endsAuthority]

theorem dropWhile_authority (h : a.Plain) (ended : EndsAuthority rest) :
    (a.text ++ rest).dropWhile (fun c => !endsAuthority special c) = rest := by
  rw [List.dropWhile_append_of_pos fun c hc => by
    rw [endsAuthority_of_isAuthorityChar (h.char hc)]; rfl]
  obtain rfl | ⟨more, rfl⟩ := ended
  · simp
  · simp [endsAuthority]

theorem at_not_mem (plain : ∀ c ∈ a.host, isHostChar c = true) : '@' ∉ a.hostAndPort := by
  intro hmem
  obtain h | h := mem_hostAndPort plain hmem
  · exact absurd h (by decide)
  · exact absurd h (by decide)

theorem splitAtLast_of_not_mem {x : Char} (h : x ∉ cs) : splitAtLast x cs = none := by
  simp [splitAtLast, h]

theorem splitAtLast_append_cons {x : Char} {before after : List Char} (h : x ∉ after) :
    splitAtLast x (before ++ x :: after) = some (before, after) := by
  have back : ((before ++ x :: after).reverse.takeWhile (· != x)).reverse = after := by
    have kept : ∀ y ∈ after.reverse, (y != x) = true := fun y hy =>
      bne_iff_ne.mpr fun same => h (same ▸ List.mem_reverse.mp hy)
    rw [List.reverse_append, List.reverse_cons, List.append_assoc,
      List.takeWhile_append_of_pos kept]
    simp
  have length : (before ++ x :: after).length - after.length - 1 = before.length := by
    rw [List.length_append, List.length_cons]
    omega
  rw [splitAtLast, if_pos (by simp), back]
  dsimp only
  rw [length, List.take_left]

/-- The user of an authority, as it is kept. -/
def Authority.userinfo? (a : Authority) : Option Userinfo :=
  a.user.map fun user => ⟨escape inUserinfo user, none⟩

theorem userinfo_authority (h : a.Plain) (ended : EndsAuthority rest) :
    userinfo special (a.text ++ rest) = .ok (a.userinfo?, a.hostAndPort ++ rest) := by
  have noSign := at_not_mem h.host
  rw [userinfo, takeWhile_authority h ended, dropWhile_authority h ended]
  cases huser : a.user with
  | none =>
    have text : a.text = a.hostAndPort := by simp [Authority.text, huser]
    rw [text, splitAtLast_of_not_mem noSign]
    simp [Authority.userinfo?, huser]
  | some user =>
    have text : a.text = user ++ '@' :: a.hostAndPort := by simp [Authority.text, huser]
    obtain ⟨filled, plain⟩ := h.user user huser
    have colonFree : ∀ c ∈ user, (c != ':') = true := fun c hc =>
      bne_iff_ne.mpr (ne_of_class (plain c hc) rfl)
    have whole : user.takeWhile (· != ':') = user := List.takeWhile_eq_self_iff.mpr colonFree
    have noSecret : user.dropWhile (· != ':') = [] := List.dropWhile_eq_nil_iff.mpr colonFree
    rw [text, splitAtLast_append_cons noSign]
    obtain ⟨first, more, rfl⟩ := List.exists_cons_of_ne_nil filled
    simp only [whole, noSecret, Authority.userinfo?, huser]
    rfl

/-! ## Host and port -/

/-- What may follow a host: a port, a slash, or nothing. -/
def EndsHost (rest : List Char) : Prop :=
  rest = [] ∨ ∃ c more, rest = c :: more ∧ (c = ':' ∨ c = '/')

theorem spanHost_append (special : Bool) (plain : ∀ c ∈ host, isHostChar c = true)
    (ended : EndsHost rest) : spanHost special false (host ++ rest) = (host, rest) := by
  induction host with
  | nil =>
    obtain rfl | ⟨c, more, rfl, rfl | rfl⟩ := ended
    · rfl
    · rfl
    · cases special <;> rfl
  | cons c host ih =>
    obtain ⟨hc, hhost⟩ := List.forall_mem_cons.mp plain
    -- a name goes on over each of its characters, and no bracket hides the colon after it
    have goes : (c == ':' && !false || endsAuthority special c) = false := by
      cases special
      · exact of_isHostChar (p := fun c => (c == ':' && !false || endsAuthority false c) = false)
          (by decide) hc
      · exact of_isHostChar (p := fun c => (c == ':' && !false || endsAuthority true c) = false)
          (by decide) hc
    have outside : (if c = '[' then true else if c = ']' then false else false) = false :=
      of_isHostChar (p := fun c => (if c = '[' then true else if c = ']' then false else false) =
        false) (by decide) hc
    simp only [List.cons_append, spanHost, goes, outside, ih hhost, Bool.false_eq_true, if_false]

theorem endsHost_portText (port : Option Nat) (ended : EndsAuthority rest) :
    EndsHost (portText port ++ rest) := by
  cases port with
  | some n => exact .inr ⟨':', _, rfl, .inl rfl⟩
  | none =>
    obtain rfl | ⟨more, rfl⟩ := ended
    · exact .inl rfl
    · exact .inr ⟨'/', more, rfl, .inr rfl⟩

theorem spanHost_authority (plain : ∀ c ∈ a.host, isHostChar c = true)
    (ended : EndsAuthority rest) :
    spanHost special false (a.hostAndPort ++ rest) = (a.host, portText a.port ++ rest) := by
  rw [Authority.hostAndPort, List.append_assoc]
  exact spanHost_append special plain (endsHost_portText a.port ended)

theorem portOf_digits (usual : Option Nat) (number : Nat) (ended : EndsAuthority rest) :
    portOf usual (Nat.toDigits 10 number ++ rest) =
      if number < 65536 then .ok (if some number = usual then none else some number, rest)
      else .error .port := by
  have digits : ∀ c ∈ Nat.toDigits 10 number, isDigit c = true := fun _ => isDigit_of_mem_toDigits
  have taken : (Nat.toDigits 10 number ++ rest).takeWhile isDigit = Nat.toDigits 10 number := by
    rw [List.takeWhile_append_of_pos digits]
    obtain rfl | ⟨more, rfl⟩ := ended
    · simp
    · simp [show isDigit '/' = false from rfl]
  have left : (Nat.toDigits 10 number ++ rest).dropWhile isDigit = rest := by
    rw [List.dropWhile_append_of_pos digits]
    obtain rfl | ⟨more, rfl⟩ := ended
    · rfl
    · simp [show isDigit '/' = false from rfl]
  rw [portOf, taken, left, digitsValue_toDigits]
  by_cases fits : number < 65536
  · obtain rfl | ⟨more, rfl⟩ := ended
    · simp [Nat.toDigits_ne_nil, fits]
    · simp [Nat.toDigits_ne_nil, fits]
  · simp [fits]

theorem joinSegments_ne_nil (done : List (List Char)) (last : List Char) :
    joinSegments done last ≠ [] := by
  simp [joinSegments]

theorem segments_ne_nil (done : List (List Char)) (current : List Char) :
    (segments special done current cs).1 ≠ [] := by
  -- wherever the reading stops, the last segment stands after a slash
  induction cs generalizing done current with
  | nil => exact joinSegments_ne_nil _ _
  | cons c cs ih =>
    rw [segments]
    split
    · exact joinSegments_ne_nil _ _
    · split
      · exact ih _ _
      · exact ih _ _

/-! ## Reading an authority -/

/-- A URL without a user, from what stands before its path and from the rest. -/
def ofAuthority (scheme : List Char) (special : Bool) (host : List Char) (port : Option Nat)
    (rest : List Char) : Url :=
  let (path, beyond) := pathAfterAuthority special rest
  let (query, fragment) := queryAndFragment special beyond
  { scheme, hasAuthority := true, username := [], password := none, host := some host, port, path,
    isFlat := false, query, fragment }

/-- The user as it is kept. -/
def Authority.username (a : Authority) : List Char :=
  match a.userinfo? with
  | some info => info.username
  | none => []

/-- The port, if there is one, and what follows it. -/
def portPart (usual : Option Nat) (cs : List Char) : Except UrlError (Option Nat × List Char) :=
  match cs with
  | ':' :: more => portOf usual more
  | _ => .ok (none, cs)

/-- Once the host is read, only the port can be at fault. -/
theorem afterSlashes_eq_map (h : a.Plain) (ended : EndsAuthority rest) (scheme : List Char)
    (read : hostOf special a.host = .ok name) (named : name ≠ []) :
    afterSlashes scheme special (a.text ++ rest) =
      (portPart (defaultPort? scheme) (portText a.port ++ rest)).map fun found =>
        { ofAuthority scheme special name found.1 found.2 with username := a.username } := by
  have tail := endsHost_portText a.port ended
  have password : (a.userinfo?.bind fun i => i.password) = none := by
    cases huser : a.user <;> simp [Authority.userinfo?, huser]
  rw [afterSlashes, userinfo_authority h ended]
  simp only [bind, Except.bind, spanHost_authority h.host ended, h.filled, password]
  generalize portText a.port ++ rest = tail at *
  cases special with
  | true =>
    have read : specialHost a.host = .ok name := read
    simp only [read, named]
    obtain rfl | ⟨c, more, rfl, rfl | rfl⟩ := tail
    · rfl
    · simp only [portPart]
      cases portOf (defaultPort? scheme) more <;> rfl
    · rfl
  | false =>
    have read : plainHost a.host = .ok name := read
    simp only [read, named]
    obtain rfl | ⟨c, more, rfl, rfl | rfl⟩ := tail
    · rfl
    · simp only [portPart]
      cases portOf (defaultPort? scheme) more <;> rfl
    · rfl

/-- The port as it is kept, unless it goes without saying. -/
def keptPort (usual port : Option Nat) : Option Nat := if port = usual then none else port

theorem portPart_portText (usual port : Option Nat) (ended : EndsAuthority rest) :
    portPart usual (portText port ++ rest) =
      if port.all (· < 65536) then .ok (keptPort usual port, rest) else .error .port := by
  cases port with
  | none =>
    have none_kept : keptPort usual none = none := by simp [keptPort]
    rw [none_kept]
    obtain rfl | ⟨more, rfl⟩ := ended
    · rfl
    · rfl
  | some n =>
    rw [portText, List.cons_append, portPart, portOf_digits usual n ended]
    simp [keptPort]

theorem all_fits (fits : ∀ number ∈ port, number < 65536) : port.all (· < 65536) = true :=
  (Option.all_eq_true _ _).mpr fun number given => decide_eq_true (fits number given)

/-- What is read of an authority, given what is read of its host, and of what follows it. -/
def Authority.url (a : Authority) (scheme : List Char) (special : Bool) (name rest : List Char) :
    Url :=
  { ofAuthority scheme special name (keptPort (defaultPort? scheme) a.port) rest with
    username := a.username }

/-- An authority is read, unless its port is too large or its host can not be read. -/
theorem afterSlashes_authority (h : a.Plain) (ended : EndsAuthority rest) (scheme : List Char)
    (read : hostOf special a.host = .ok name) (named : name ≠ []) :
    afterSlashes scheme special (a.text ++ rest) =
      if a.port.all (· < 65536) then .ok (a.url scheme special name rest) else .error .port := by
  rw [afterSlashes_eq_map h ended scheme read named, portPart_portText _ _ ended]
  split <;> rfl

/-! ## Reading a URL -/

theorem scheme?_schemeUrl :
    scheme? (schemeUrl scheme rest) = some (scheme.name, '/' :: '/' :: rest) := by
  cases scheme <;> rfl

/-- The schemes without a path of their own. -/
theorem isSpecialScheme_eq_false_iff :
    isSpecialScheme scheme.name = false ↔ scheme = .ssh ∨ scheme = .git := by
  cases scheme <;> decide

/-- What follows the two slashes is read on, if it is not a slash again. -/
theorem parse_of_tidy {text more : List Char} (begins : c ≠ '/' ∧ c ≠ '\\')
    (tidied : tidy text = schemeUrl scheme (c :: more)) :
    parse text = afterSlashes scheme.name (isSpecialScheme scheme.name) (c :: more) := by
  have cut : ('/' :: '/' :: c :: more).dropWhile (fun c => c == '/' || c == '\\') = c :: more := by
    simp [begins]
  rw [parse, tidied, scheme?_schemeUrl]
  cases scheme with
  | https => exact congrArg (afterSlashes "https".toList true) cut
  | http => exact congrArg (afterSlashes "http".toList true) cut
  | ssh => rfl
  | git => rfl

/-- A URL that begins with an authority is read, unless its port is too large or its host can not be
read. -/
theorem parse_authority {text : List Char} (scheme : RemoteScheme) (h : a.Plain)
    (ended : EndsAuthority rest) (tidied : tidy text = schemeUrl scheme (a.text ++ rest))
    (read : hostOf (isSpecialScheme scheme.name) a.host = .ok name) (named : name ≠ []) :
    parse text = if a.port.all (· < 65536) then
        .ok (a.url scheme.name (isSpecialScheme scheme.name) name rest)
      else .error .port := by
  obtain ⟨first, more, begun⟩ := List.exists_cons_of_ne_nil h.text_ne_nil
  have plain : isAuthorityChar first = true := h.char (begun ▸ List.mem_cons_self)
  have begins : first ≠ '/' ∧ first ≠ '\\' := ⟨ne_of_class plain rfl, ne_of_class plain rfl⟩
  have whole : a.text ++ rest = first :: (more ++ rest) := by
    rw [begun]
    rfl
  rw [parse_of_tidy begins (whole ▸ tidied), ← whole]
  exact afterSlashes_authority h ended _ read named

/-! ## Tidying -/

/-- The characters that are cut off the ends. -/
def isEdge (c : Char) : Bool := decide (c.toNat ≤ 0x20)

/-- The characters that are not taken out of the middle. -/
def isInner (c : Char) : Bool := c != '\t' && c != '\n' && c != '\r'

theorem tidy_def (cs : List Char) : tidy cs = (trimBoth isEdge cs).filter isInner := rfl

/-- A character that shows is left wherever it stands. -/
theorem kept_of_shown (h : 0x20 < c.toNat) : isEdge c = false ∧ isInner c = true := by
  have other {d : Char} (hd : d.toNat ≤ 0x20) : c ≠ d := by
    rintro rfl
    omega
  have tab : c ≠ '\t' := other (by decide)
  have lineFeed : c ≠ '\n' := other (by decide)
  have carriageReturn : c ≠ '\r' := other (by decide)
  exact ⟨decide_eq_false (Nat.not_le.mpr h), by simp [isInner, tab, lineFeed, carriageReturn]⟩

theorem filter_of_shown (shown : ∀ c ∈ cs, 0x20 < c.toNat) : cs.filter isInner = cs :=
  List.filter_eq_self.mpr fun c hc => (kept_of_shown (shown c hc)).2

theorem tidy_eq (shown : ∀ c ∈ cs, 0x20 < c.toNat) : tidy cs = cs := by
  rw [tidy_def, trimBoth_eq_self fun c hc => (kept_of_shown (shown c hc)).1, filter_of_shown shown]

/-- Whatever stands behind a character that shows, nothing up to it is left out. -/
theorem tidy_append_cons (front : List Char) (shown : ∀ c ∈ front, 0x20 < c.toNat)
    (hc : 0x20 < c.toNat) (more : List Char) :
    ∃ left, tidy (front ++ c :: more) = front ++ c :: left := by
  have begun : (front ++ c :: more).dropWhile isEdge = front ++ c :: more := by
    cases front with
    | nil => simp [kept_of_shown hc]
    | cons first front => simp [kept_of_shown (shown first List.mem_cons_self)]
  have ended : trimEnd isEdge (front ++ c :: more) = front ++ c :: trimEnd isEdge more :=
    trimEnd_append_cons (kept_of_shown hc).1 front more
  refine ⟨(trimEnd isEdge more).filter isInner, ?_⟩
  rw [tidy_def, trimBoth, begun, ended, List.filter_append,
    List.filter_cons_of_pos (kept_of_shown hc).2, filter_of_shown shown]

theorem shown_of_mem_schemeUrl (h : ∀ c ∈ cs, 0x20 < c.toNat) :
    ∀ c ∈ schemeUrl scheme cs, 0x20 < c.toNat := by
  have mark : ((scheme.name ++ "://".toList).all fun c => decide (0x20 < c.toNat)) = true := by
    cases scheme <;> rfl
  intro c hc
  obtain hc | hc := List.mem_append.mp hc
  · exact of_decide_eq_true (List.all_eq_true.mp mark c hc)
  · exact h c hc

/-- An authority stands as it is before whatever path. -/
theorem tidy_authority (h : a.Plain) (scheme : RemoteScheme) (path : List Char) :
    ∃ left, tidy (schemeUrl scheme (a.text ++ '/' :: path)) =
      schemeUrl scheme (a.text ++ '/' :: left) := by
  have shown : ∀ c ∈ schemeUrl scheme a.text, 0x20 < c.toNat :=
    shown_of_mem_schemeUrl fun c hc => shown_of_isAuthorityChar (h.char hc)
  have apart (path : List Char) : schemeUrl scheme (a.text ++ '/' :: path) =
      schemeUrl scheme a.text ++ '/' :: path :=
    (List.append_assoc _ _ _).symm
  obtain ⟨left, tidied⟩ := tidy_append_cons (c := '/') _ shown (by decide) path
  exact ⟨left, by rw [apart, apart, tidied]⟩

end ImportWeights.Url
