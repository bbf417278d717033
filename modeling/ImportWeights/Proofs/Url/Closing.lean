import ImportWeights.Proofs.Url.Reach

/-! # Closing a text by a slash

A text that is closed by a slash is read in the same way whatever follows, up to its path, if it has
a host. If it ends before its host, then the host is taken from what follows; and some texts have no
host at all (`closing`). -/

namespace ImportWeights.Url

open ImportWeights.Text

variable {scheme text : List Char}

/-! ## Files -/

theorem isSpecialScheme_of_file (file : isFileScheme scheme = true) :
    isSpecialScheme scheme = true := by
  rw [isSpecialScheme, file, Bool.or_true]

def isSlash (c : Char) : Bool := c == '/' || c == '\\'

/-- The host of a file URL and what follows it: a drive is no host, and the local host goes without
saying. -/
def fileAuthority (scheme hostText rest : List Char) : Except UrlError (Url × List Char) :=
  let (hostText, rest) := if isDriveLetter hostText then ([], '/' :: hostText ++ rest)
    else (hostText, rest)
  (if hostText = [] then .ok [] else specialHost hostText) >>= fun host =>
    .ok (bare scheme none (if host = "localhost".toList then [] else host) none, rest)

theorem followedBy_file (file : isFileScheme scheme = true) (host rest : List Char) :
    (bare scheme none host none).followedBy rest =
      let (path, beyond) := pathAfterAuthority true rest
      let (query, fragment) := queryAndFragment true beyond
      { bare scheme none host none with
        path := '/' :: path.dropWhile (· == '/'), query, fragment } := by
  have special : isSpecialScheme (bare scheme none host none).scheme = true :=
    isSpecialScheme_of_file file
  have isFile : isFileScheme (bare scheme none host none).scheme = true := file
  unfold followedBy
  rw [special, isFile]
  rfl

/-- What stands behind the two slashes of a file URL, up to its path. -/
def fileText (more : List Char) : List Char := more.takeWhile fun c => !endsAuthority true c

def afterFileText (more : List Char) : List Char := more.dropWhile fun c => !endsAuthority true c

/-- Two slashes of a file URL begin its host, which may be left out. -/
theorem fileUrl_eq (file : isFileScheme scheme = true) {a b : Char} (ha : isSlash a = true)
    (hb : isSlash b = true) (more : List Char) :
    fileUrl scheme (a :: b :: more) =
      (fileAuthority scheme (fileText more) (afterFileText more)).map
        fun found => found.1.followedBy found.2 := by
  have both : ((a == '/' || a == '\\') && (b == '/' || b == '\\')) = true :=
    (Bool.and_eq_true _ _).mpr ⟨ha, hb⟩
  unfold fileUrl fileAuthority fileText afterFileText
  dsimp only
  rw [if_pos both]
  dsimp only
  obtain ⟨hostText, rest, parts⟩ : ∃ hostText rest,
      (if isDriveLetter (more.takeWhile fun c => !endsAuthority true c) = true then
          ([], '/' :: (more.takeWhile fun c => !endsAuthority true c) ++
            more.dropWhile fun c => !endsAuthority true c)
        else (more.takeWhile fun c => !endsAuthority true c,
          more.dropWhile fun c => !endsAuthority true c)) = (hostText, rest) := ⟨_, _, rfl⟩
  rw [parts]
  dsimp only
  by_cases missing : hostText = []
  · rw [if_pos missing, if_pos missing]
    exact congrArg Except.ok
      (followedBy_file file (if [] = "localhost".toList then [] else []) rest).symm
  · rw [if_neg missing, if_neg missing]
    cases specialHost hostText with
    | error e => rfl
    | ok host => exact congrArg Except.ok (followedBy_file file _ _).symm

theorem fileAuthority_append (scheme hostText rest more : List Char) :
    fileAuthority scheme hostText (rest ++ more) =
      (fileAuthority scheme hostText rest).map fun found => (found.1, found.2 ++ more) := by
  unfold fileAuthority
  by_cases drive : isDriveLetter hostText = true
  · rw [if_pos drive, if_pos drive, ← List.append_assoc]
    rfl
  · rw [if_neg drive, if_neg drive]
    dsimp only
    cases (if hostText = [] then .ok [] else specialHost hostText) <;> rfl

theorem fileUrl_closed (file : isFileScheme scheme = true) {a b : Char} (ha : isSlash a = true)
    (hb : isSlash b = true) (front : List Char) : ∃ out : Except UrlError (Url × List Char), ∀ back,
      fileUrl scheme (a :: b :: (front ++ '/' :: back)) =
        out.map fun found => found.1.followedBy (found.2 ++ '/' :: back) := by
  have stop := endsAuthority_slash true
  refine ⟨fileAuthority scheme (fileText front) (afterFileText front), fun back => ?_⟩
  have taken : fileText (front ++ '/' :: back) = fileText front :=
    takeWhile_append_stop (p := fun c => !endsAuthority true c) stop front back
  have left : afterFileText (front ++ '/' :: back) = afterFileText front ++ '/' :: back :=
    dropWhile_append_stop (p := fun c => !endsAuthority true c) stop front back
  rw [fileUrl_eq file ha hb, taken, left, fileAuthority_append]
  cases fileAuthority scheme (fileText front) (afterFileText front) <;> rfl

/-- Without two slashes at its beginning, a file URL has no host. -/
theorem fileUrl_of_apart (file : isFileScheme scheme = true) {cs : List Char}
    (h : ∀ a b more, cs = a :: b :: more → ¬ (isSlash a = true ∧ isSlash b = true)) :
    fileUrl scheme cs = .ok ((bare scheme none [] none).followedBy cs) := by
  rw [followedBy_file file]
  rcases cs with _ | ⟨a, _ | ⟨b, more⟩⟩
  · rfl
  · rfl
  · have apart : ¬ ((a == '/' || a == '\\') && (b == '/' || b == '\\')) = true :=
      mt (Bool.and_eq_true _ _).mp (h a b more rfl)
    unfold fileUrl
    dsimp only
    rw [if_neg apart]
    rfl

/-! ## Closing a text by a slash -/

/-- What may follow a slash: no further slash comes first, and no character is left out. -/
structure Inner (back : List Char) : Prop where
  begins : ∀ c ∈ back.head?, isSlash c = false
  shown : ∀ c ∈ back, 0x20 < c.toNat

/-- What becomes of a text when it is closed by a slash and followed by more. -/
inductive Closing (text : List Char) : Prop
  /-- Whatever follows belongs to the path, or to what comes after it. -/
  | hosted (out : Except UrlError (Url × List Char)) (h : ∀ back, Inner back →
      parse (text ++ '/' :: back) =
        out.map fun found => found.1.followedBy (found.2 ++ '/' :: back))
  | hostless (h : ∀ back, Inner back → ∀ u, parse (text ++ '/' :: back) = .ok u → u.host = none)
  /-- What follows is read as a host. -/
  | swallowed {scheme : List Char} (plain : isFileScheme scheme = false) (h : ∀ back, Inner back →
      parse (text ++ '/' :: back) = afterSlashes scheme (isSpecialScheme scheme) back)
  | swallowedByFile {scheme : List Char} (file : isFileScheme scheme = true) (h : ∀ back,
      Inner back → parse (text ++ '/' :: back) = fileUrl scheme ('/' :: '/' :: back))

theorem exists_tidy (text : List Char) : ∃ front, ∀ back, Inner back →
    tidy (text ++ '/' :: back) = front ++ '/' :: back := by
  refine ⟨(text.dropWhile isEdge).filter isInner, fun back inner => ?_⟩
  have ended : trimEnd isEdge back = back := trimEnd_eq_self fun last hlast =>
    (kept_of_shown (inner.shown last (List.mem_of_getLast? hlast))).1
  rw [tidy_def, trimBoth, dropWhile_append_stop rfl, trimEnd_append_cons rfl, ended,
    List.filter_append, List.filter_cons_of_pos rfl, filter_of_shown inner.shown]

theorem exists_scheme? (front : List Char) : ∃ found : Option (List Char × List Char), ∀ back,
    scheme? (front ++ '/' :: back) = found.map fun parts => (parts.1, parts.2 ++ '/' :: back) := by
  cases front with
  | nil => exact ⟨none, fun back => rfl⟩
  | cons c front =>
    have taken (back : List Char) :
        (c :: (front ++ '/' :: back)).takeWhile isSchemeChar =
          (c :: front).takeWhile isSchemeChar :=
      takeWhile_append_stop rfl (c :: front) back
    have left (back : List Char) : (c :: (front ++ '/' :: back)).dropWhile isSchemeChar =
        (c :: front).dropWhile isSchemeChar ++ '/' :: back :=
      dropWhile_append_stop rfl (c :: front) back
    simp only [List.cons_append, scheme?, taken, left]
    by_cases letter : isAsciiAlpha c = true
    · simp only [if_pos letter]
      match (c :: front).dropWhile isSchemeChar with
      | [] => exact ⟨none, fun back => rfl⟩
      | d :: rest =>
        by_cases colon : d = ':'
        · subst colon
          exact ⟨some (_, rest), fun back => rfl⟩
        · refine ⟨none, fun back => ?_⟩
          simp [colon]
    · exact ⟨none, fun back => if_neg letter⟩

/-! ## Schemes -/

theorem closing_of_file (file : isFileScheme scheme = true) (rest : List Char)
    (read : ∀ back, Inner back →
      parse (text ++ '/' :: back) = fileUrl scheme (rest ++ '/' :: back)) :
    Closing text := by
  have hostless (h : ∀ back, Inner back → ∀ a b more, rest ++ '/' :: back = a :: b :: more →
      ¬ (isSlash a = true ∧ isSlash b = true)) : Closing text :=
    .hostless fun back inner u hu => by
      rw [read back inner, fileUrl_of_apart file (h back inner)] at hu
      cases hu
      rfl
  rcases rest with _ | ⟨a, _ | ⟨b, front⟩⟩
  · refine hostless fun back inner a b more same => ?_
    cases same
    rintro ⟨-, slash⟩
    exact Bool.false_ne_true ((inner.begins b rfl).symm.trans slash)
  · -- the slash that closes the text may be the second one
    by_cases slash : isSlash a = true
    · refine .swallowedByFile file fun back inner => ?_
      rw [read back inner, List.singleton_append, fileUrl_eq file slash rfl,
        fileUrl_eq file rfl rfl]
    · refine hostless fun back inner first second more same => ?_
      cases same
      exact fun both => slash both.1
  · by_cases slashes : isSlash a = true ∧ isSlash b = true
    · obtain ⟨out, closed⟩ := fileUrl_closed file slashes.1 slashes.2 front
      exact .hosted out fun back inner => (read back inner).trans (closed back)
    · refine hostless fun back inner first second more same => ?_
      cases same
      exact slashes

theorem closing_of_authority (plain : isFileScheme scheme = false) (rest : List Char)
    (read : ∀ back, Inner back → parse (text ++ '/' :: back) =
      afterSlashes scheme (isSpecialScheme scheme) (rest ++ '/' :: back)) : Closing text := by
  obtain ⟨out, stops⟩ := stopsAtSlash_authority scheme (isSpecialScheme scheme) rest
  refine .hosted out fun back inner => ?_
  rw [read back inner, afterSlashes_eq plain, stops back]
  cases out <;> rfl

theorem dropWhile_isSlash_of_inner {back : List Char} (inner : Inner back) :
    back.dropWhile isSlash = back := by
  cases back with
  | nil => rfl
  | cons c back => exact List.dropWhile_cons_of_neg (ne_true_of_eq_false (inner.begins c rfl))

theorem closing_of_special (plain : isFileScheme scheme = false) (rest : List Char)
    (read : ∀ back, Inner back → parse (text ++ '/' :: back) =
      afterSlashes scheme (isSpecialScheme scheme) ((rest ++ '/' :: back).dropWhile isSlash)) :
    Closing text := by
  by_cases slashes : rest.dropWhile isSlash = []
  · refine .swallowed plain fun back inner => ?_
    rw [read back inner, List.dropWhile_append, slashes, if_pos List.isEmpty_nil,
      List.dropWhile_cons_of_pos rfl, dropWhile_isSlash_of_inner inner]
  · refine closing_of_authority plain (rest.dropWhile isSlash) fun back inner => ?_
    rw [read back inner, List.dropWhile_append, if_neg (by simpa using slashes)]

/-- Under any other scheme, two slashes begin an authority. -/
theorem host_parse {cs : List Char} {u : Url} (schemed : scheme? (tidy text) = some (scheme, cs))
    (plain : isFileScheme scheme = false) (special : isSpecialScheme scheme = false)
    (h : ∀ more, cs ≠ '/' :: '/' :: more) (read : parse text = .ok u) : u.host = none := by
  simp only [parse, schemed, plain, special, Bool.false_eq_true, if_false] at read
  split at read
  · exact absurd rfl (h _)
  · cases read
    rfl
  · cases read
    rfl

theorem closing_of_other (plain : isFileScheme scheme = false)
    (special : isSpecialScheme scheme = false) (rest : List Char)
    (read : ∀ back, Inner back →
      scheme? (tidy (text ++ '/' :: back)) = some (scheme, rest ++ '/' :: back)) :
    Closing text := by
  by_cases authority : ∃ front, rest = '/' :: '/' :: front
  · obtain ⟨front, rfl⟩ := authority
    refine closing_of_authority plain front fun back inner => ?_
    simp only [parse, read back inner, plain, special, Bool.false_eq_true, if_false,
      List.cons_append]
  · by_cases slash : rest = ['/']
    · refine .swallowed plain fun back inner => ?_
      simp only [parse, read back inner, plain, special, slash, Bool.false_eq_true, if_false,
        List.cons_append, List.nil_append]
    · refine .hostless fun back inner u hu =>
        host_parse (read back inner) plain special (fun more same => ?_) hu
      rcases rest with _ | ⟨c, _ | ⟨d, front⟩⟩
      · cases same
        cases inner.begins '/' rfl
      · cases same
        exact slash rfl
      · cases same
        exact authority ⟨front, rfl⟩

/-- What becomes of any text. -/
theorem closing (text : List Char) : Closing text := by
  obtain ⟨front, tidied⟩ := exists_tidy text
  obtain ⟨found, schemed⟩ := exists_scheme? front
  have read (back : List Char) (inner : Inner back) : scheme? (tidy (text ++ '/' :: back)) =
      found.map fun parts => (parts.1, parts.2 ++ '/' :: back) := by
    rw [tidied back inner, schemed back]
  cases found with
  | none =>
    refine .hosted (.error .relativeWithoutBase) fun back inner => ?_
    rw [parse, read back inner]
    rfl
  | some parts =>
    obtain ⟨scheme, rest⟩ := parts
    by_cases file : isFileScheme scheme = true
    · refine closing_of_file file rest fun back inner => ?_
      simp only [parse, read back inner, Option.map_some, file, if_true]
    · have plain : isFileScheme scheme = false := eq_false_of_ne_true file
      by_cases special : isSpecialScheme scheme = true
      · refine closing_of_special plain rest fun back inner => ?_
        simp only [parse, read back inner, Option.map_some, plain, special, if_true]
        rfl
      · exact closing_of_other plain (eq_false_of_ne_true special) rest read

end ImportWeights.Url
