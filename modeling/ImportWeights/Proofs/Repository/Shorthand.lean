import ImportWeights.Proofs.Repository.Reading

/-! # The short form

The short form for the expected host is accepted unread. Any other text of that form is read as a
host and a path, unless the path holds the mark of a URL or begins with its two slashes: the text is
then a URL without a scheme. So the short form admits no host that reading it would not admit. -/

namespace ImportWeights.Repository

open ImportWeights.Text ImportWeights.Url

/-- A fixed user, a host, a colon, and the rest. -/
def shorthand (host rest : List Char) : List Char := "git@".toList ++ host ++ ':' :: rest

/-- The characters that mark a URL. -/
def urlMark : List Char := "://".toList

variable {host rest : List Char} {expected : String}

/-! ## The characters -/

section

variable (plain : ∀ c ∈ host, isHostChar c = true)

include plain

theorem not_colon_of_mem_host : ∀ c ∈ host, (c != ':') = true :=
  fun c hc => bne_iff_ne.mpr (ne_of_class (plain c hc) rfl)

theorem not_colon_of_mem_front : ∀ c ∈ "git@".toList ++ host, (c != ':') = true := by
  have fixed : ∀ c ∈ "git@".toList, (c != ':') = true := List.all_eq_true.mp rfl
  intro c hc
  obtain hc | hc := List.mem_append.mp hc
  · exact fixed c hc
  · exact not_colon_of_mem_host plain c hc

theorem slash_not_mem_front : '/' ∉ "git@".toList ++ host := by
  intro hmem
  obtain hmem | hmem := List.mem_append.mp hmem
  · exact absurd hmem (by decide)
  · exact ne_of_class (plain '/' hmem) rfl rfl

theorem urlMark_infix_shorthand : urlMark <:+: shorthand host rest ↔ urlMark <:+: ':' :: rest :=
  infix_append_of_not_mem fun hmem => bne_iff_ne.mp (not_colon_of_mem_front plain ':' hmem) rfl

end

/-- The mark may begin with the colon of the short form. -/
theorem urlMark_infix_colon_cons :
    urlMark <:+: ':' :: rest ↔ "//".toList <+: rest ∨ urlMark <:+: rest := by
  have colon : urlMark <+: ':' :: rest ↔ "//".toList <+: rest := by
    rw [urlMark]
    exact List.prefix_cons_inj ':'
  rw [List.infix_cons_iff, colon]

theorem takeWhile_colon {front : List Char} (h : ∀ c ∈ front, (c != ':') = true)
    (rest : List Char) : (front ++ ':' :: rest).takeWhile (· != ':') = front := by
  rw [List.takeWhile_append_of_pos h]
  simp

theorem dropWhile_colon {front : List Char} (h : ∀ c ∈ front, (c != ':') = true)
    (rest : List Char) : (front ++ ':' :: rest).dropWhile (· != ':') = ':' :: rest := by
  rw [List.dropWhile_append_of_pos h]
  simp

/-! ## Unread -/

/-- The short form goes unread for one host only. -/
theorem isShorthand_shorthand (plain : ∀ c ∈ host, isHostChar c = true)
    (plain' : ∀ c ∈ expected.toList, isHostChar c = true) (rest : List Char) :
    isShorthand (String.ofList (shorthand host rest)) expected = true ↔ host = expected.toList := by
  have text : (String.ofList (shorthand host rest)).toList = shorthand host rest :=
    String.toList_ofList
  rw [isShorthand, text, List.isPrefixOf_iff_prefix, shorthand, List.append_assoc,
    List.append_assoc, List.prefix_append_right_inj]
  constructor
  · rintro ⟨more, same⟩
    have ends : expected.toList ++ ':' :: more = host ++ ':' :: rest := by simpa using same
    calc host = (host ++ ':' :: rest).takeWhile (· != ':') :=
          (takeWhile_colon (not_colon_of_mem_host plain) rest).symm
      _ = (expected.toList ++ ':' :: more).takeWhile (· != ':') := by rw [ends]
      _ = expected.toList := takeWhile_colon (not_colon_of_mem_host plain') more
  · rintro rfl
    exact ⟨rest, by simp⟩

/-! ## Read as a host and a path -/

/-- What is read before the colon. -/
def gitAt (host : List Char) : Authority := ⟨some "git".toList, host, none⟩

theorem gitAt_text (host : List Char) : (gitAt host).text = "git@".toList ++ host := by
  simp [gitAt, Authority.text, Authority.hostAndPort, portText]

theorem gitAt_plain (filled : host ≠ []) (plain : ∀ c ∈ host, isHostChar c = true) :
    (gitAt host).Plain := by
  refine ⟨?_, filled, plain⟩
  rintro user ⟨⟩
  exact ⟨by decide, List.all_eq_true.mp rfl⟩

theorem parse_gitAt (filled : host ≠ []) (plain : ∀ c ∈ host, isHostChar c = true) :
    Url.parse ("ssh://".toList ++ ("git@".toList ++ host)) =
      .ok ((gitAt host).url "ssh".toList false host []) := by
  have gitAtPlain := gitAt_plain filled plain
  have text : "ssh://".toList ++ ("git@".toList ++ host) =
      schemeUrl .ssh ((gitAt host).text ++ []) := by
    rw [List.append_nil, gitAt_text]
    rfl
  have shown : ∀ c ∈ schemeUrl .ssh ((gitAt host).text ++ []), 0x20 < c.toNat := by
    rw [List.append_nil]
    exact shown_of_mem_schemeUrl fun c hc => shown_of_isAuthorityChar (gitAtPlain.char hc)
  rw [text]
  exact parse_authority .ssh gitAtPlain (.inl rfl) (tidy_eq shown) (plainHost_eq plain)
    filled

theorem locator_eq_fromHostAndPath (plain : ∀ c ∈ host, isHostChar c = true)
    (unmarked : ¬ urlMark <:+: ':' :: rest) :
    Locator.parse (String.ofList (shorthand host rest)) =
      fromHostAndPath ("git@".toList ++ host) rest (shorthand host rest) := by
  have unbroken : breakAt "://".toList (shorthand host rest) = none :=
    breakAt_eq_none_iff.mpr (mt (urlMark_infix_shorthand plain).mp unmarked)
  have front := not_colon_of_mem_front plain
  have before : (shorthand host rest).takeWhile (· != ':') = "git@".toList ++ host :=
    takeWhile_colon front rest
  have after : (shorthand host rest).dropWhile (· != ':') = ':' :: rest :=
    dropWhile_colon front rest
  unfold Locator.parse
  rw [String.toList_ofList]
  dsimp only
  rw [unbroken]
  dsimp only
  rw [after, before]
  exact if_neg (mt List.contains_iff_mem.mp (slash_not_mem_front plain))

theorem locator_shorthand (hostFilled : host ≠ []) (plain : ∀ c ∈ host, isHostChar c = true)
    (filled : rest ≠ []) (unmarked : ¬ urlMark <:+: ':' :: rest) :
    ∃ locator, Locator.parse (String.ofList (shorthand host rest)) = .ok locator ∧
      locator.host = some (String.ofList host) := by
  obtain ⟨user, known⟩ := userOf_authority (gitAt_plain hostFilled plain) .hostAndPath
    "ssh".toList false host []
  rw [locator_eq_fromHostAndPath plain unmarked, fromHostAndPath, parse_gitAt hostFilled plain]
  simp only [filled, known]
  exact ⟨_, rfl, rfl⟩

/-! ## Not read at all -/

/-- An at sign ends what could have been a scheme. -/
theorem scheme?_at (left : List Char) : scheme? ("git".toList ++ '@' :: left) = none := rfl

theorem parse_shorthand (host rest : List Char) :
    Url.parse (shorthand host rest) = .error .relativeWithoutBase := by
  obtain ⟨left, tidied⟩ := tidy_append_cons (c := '@') "git".toList (by simp)
    (by decide) (host ++ ':' :: rest)
  have whole : shorthand host rest = "git".toList ++ '@' :: (host ++ ':' :: rest) := by
    simp [shorthand]
  rw [Url.parse, whole, tidied, scheme?_at]

theorem locator_shorthand_of_marked (plain : ∀ c ∈ host, isHostChar c = true)
    (marked : urlMark <:+: ':' :: rest) :
    ∃ e, Locator.parse (String.ofList (shorthand host rest)) = .error e := by
  have found : (breakAt "://".toList (shorthand host rest)).isSome :=
    isSome_breakAt_iff.mpr ((urlMark_infix_shorthand plain).mpr marked)
  obtain ⟨⟨scheme, beyond⟩, broken⟩ := Option.isSome_iff_exists.mp found
  -- whatever stands before the mark, it begins with the letter of the fixed user
  have noFile : scheme.map lowerAscii ≠ "file".toList := by
    have parts := breakAt_eq_some broken
    cases scheme with
    | nil => cases parts
    | cons c scheme =>
      obtain rfl : 'g' = c := List.head_eq_of_cons_eq parts
      exact fun same => absurd (List.head_eq_of_cons_eq same) (by decide)
  unfold Locator.parse
  rw [String.toList_ofList]
  dsimp only
  rw [broken]
  dsimp only
  rw [if_neg noFile]
  exact fromUrl_of_unread (parse_shorthand host rest)

theorem locator_shorthand_nil (plain : ∀ c ∈ host, isHostChar c = true) :
    ∃ e, Locator.parse (String.ofList (shorthand host [])) = .error e := by
  have unmarked : ¬ urlMark <:+: [':'] := by decide
  rw [locator_eq_fromHostAndPath plain unmarked]
  exact ⟨_, rfl⟩

/-! ## Validation -/

theorem validate_shorthand_of_read (hostFilled : host ≠ [])
    (plain : ∀ c ∈ host, isHostChar c = true) (plain' : ∀ c ∈ expected.toList, isHostChar c = true)
    (filled : rest ≠ []) (unmarked : ¬ urlMark <:+: ':' :: rest) :
    validate (String.ofList (shorthand host rest)) expected =
      if sameHost (String.ofList host) expected then .ok ()
      else .error (.unsupportedHost (String.ofList host) expected) := by
  obtain ⟨locator, parsed, found⟩ := locator_shorthand hostFilled plain filled unmarked
  rw [validate]
  split
  · rename_i unread
    have same := (isShorthand_shorthand plain plain' rest).mp unread
    rw [if_pos]
    simp [sameHost, same]
  · rw [parsed]
    simp only [found]

theorem validate_shorthand_of_unread (plain : ∀ c ∈ host, isHostChar c = true)
    (plain' : ∀ c ∈ expected.toList, isHostChar c = true)
    (unread : rest = [] ∨ urlMark <:+: ':' :: rest) :
    validate (String.ofList (shorthand host rest)) expected = .ok () ↔ host = expected.toList := by
  have refused : ∃ e, Locator.parse (String.ofList (shorthand host rest)) = .error e := by
    obtain rfl | marked := unread
    · exact locator_shorthand_nil plain
    · exact locator_shorthand_of_marked plain marked
  obtain ⟨e, refused⟩ := refused
  rw [← isShorthand_shorthand plain plain' rest, validate]
  split
  · rename_i accepted
    simp [accepted]
  · rename_i other
    simp [refused, other]

/-- The short form and the reading of it hold a text to the same host. Only where the rest begins
with two slashes must the case of the host's letters be right too, since the text is then accepted
unread or not at all. -/
theorem validate_shorthand {host expected : String} (filled : host ≠ "")
    (plain : ∀ c ∈ host.toList, isHostChar c = true)
    (plain' : ∀ c ∈ expected.toList, isHostChar c = true) (rest : String) :
    let url := "git@" ++ host ++ ":" ++ rest
    (rest ≠ "" → ¬ "://".toList <:+: rest.toList → ¬ "//".toList <+: rest.toList →
      (validate url expected = .ok () ↔ sameHost host expected = true)) ∧
    ("//".toList <+: rest.toList → (validate url expected = .ok () ↔ host = expected)) ∧
    (sameHost host expected = false → ∃ e, validate url expected = .error e) ∧
    (isShorthand url expected = true ↔ host = expected) := by
  intro url
  have text : url = String.ofList (shorthand host.toList rest.toList) := by
    rw [← String.toList_inj, String.toList_ofList]
    simp [url, shorthand]
  have hostFilled : host.toList ≠ [] := mt String.toList_eq_nil_iff.mp filled
  have exactly : host.toList = expected.toList ↔ host = expected := String.toList_inj
  have unread (h : rest.toList = [] ∨ urlMark <:+: ':' :: rest.toList) :
      validate url expected = .ok () ↔ host = expected := by
    rw [text, validate_shorthand_of_unread plain plain' h, exactly]
  have read (h : ¬ (rest.toList = [] ∨ urlMark <:+: ':' :: rest.toList)) :
      validate url expected = if sameHost host expected then .ok ()
        else .error (.unsupportedHost host expected) := by
    rw [not_or] at h
    rw [text, validate_shorthand_of_read hostFilled plain plain' h.1 h.2, String.ofList_toList]
  refine ⟨fun restFilled unmarked unslashed => ?_, fun slashed => ?_, fun differs => ?_, ?_⟩
  · have restRead : ¬ (rest.toList = [] ∨ urlMark <:+: ':' :: rest.toList) := by
      rw [urlMark_infix_colon_cons, String.toList_eq_nil_iff, not_or, not_or]
      exact ⟨restFilled, unslashed, unmarked⟩
    rw [read restRead]
    simp
  · exact unread (.inr (urlMark_infix_colon_cons.mpr (.inl slashed)))
  · by_cases h : rest.toList = [] ∨ urlMark <:+: ':' :: rest.toList
    · have other : host ≠ expected := by
        rintro rfl
        simp [sameHost] at differs
      cases judged : validate url expected with
      | ok accepted => exact absurd ((unread h).mp judged) other
      | error e => exact ⟨e, rfl⟩
    · rw [read h, differs]
      exact ⟨_, rfl⟩
  · rw [text, isShorthand_shorthand plain plain', exactly]

theorem validate_shorthand_mixed_case :
    "GitHub.com" ≠ "" ∧ (∀ c ∈ "GitHub.com".toList, isHostChar c = true) ∧
      (∀ c ∈ "github.com".toList, isHostChar c = true) ∧
      (∀ c ∈ "github.co".toList, isHostChar c = true) ∧
      validate ("git@" ++ "GitHub.com" ++ ":" ++ "a@b:c/d") "github.com" = .ok () ∧
      (∃ e, validate ("git@" ++ "GitHub.com" ++ ":" ++ "a@b:c/d") "github.co" = .error e) ∧
      (∃ e, validate ("git@" ++ "GitHub.com" ++ ":" ++ "//x") "github.co" = .error e) := by
  have filled : "GitHub.com" ≠ "" := by decide
  have plain : ∀ c ∈ "GitHub.com".toList, isHostChar c = true := List.all_eq_true.mp rfl
  have plain' : ∀ c ∈ "github.com".toList, isHostChar c = true := List.all_eq_true.mp rfl
  have plain'' : ∀ c ∈ "github.co".toList, isHostChar c = true := List.all_eq_true.mp rfl
  have same : sameHost "GitHub.com" "github.com" = true := by decide
  have differs : sameHost "GitHub.com" "github.co" = false := by decide
  obtain ⟨read, -⟩ := validate_shorthand filled plain plain' "a@b:c/d"
  obtain ⟨-, -, shorter, -⟩ := validate_shorthand filled plain plain'' "a@b:c/d"
  obtain ⟨-, -, unread, -⟩ := validate_shorthand filled plain plain'' "//x"
  exact ⟨filled, plain, plain', plain'', (read (by decide) (by decide) (by decide)).mpr same,
    shorter differs, unread differs⟩

/-- With two slashes behind the colon, the case of a letter decides. -/
theorem shorthand_of_slashes_is_refused :
    ¬ ∀ host expected rest : String, host ≠ "" → expected ≠ "" →
      (∀ c ∈ host.toList, isHostChar c = true) → (∀ c ∈ expected.toList, isHostChar c = true) →
      rest ≠ "" → ¬ "://".toList <:+: rest.toList →
      (validate ("git@" ++ host ++ ":" ++ rest) expected = .ok () ↔
        sameHost host expected = true) := by
  intro agree
  have plain : ∀ c ∈ "github.com".toList, isHostChar c = true := List.all_eq_true.mp rfl
  have plain' : ∀ c ∈ "GitHub.com".toList, isHostChar c = true := List.all_eq_true.mp rfl
  have accepted : validate ("git@" ++ "github.com" ++ ":" ++ "//x") "GitHub.com" = .ok () :=
    (agree "github.com" "GitHub.com" "//x" (by decide) (by decide) plain plain' (by decide)
      (by decide)).mpr (by decide)
  have marked : urlMark <:+: ':' :: "//x".toList := by decide
  have text : "git@" ++ "github.com" ++ ":" ++ "//x" =
      String.ofList (shorthand "github.com".toList "//x".toList) := by decide
  rw [text, validate_shorthand_of_unread plain plain' (.inr marked)] at accepted
  exact absurd accepted (by decide)

end ImportWeights.Repository
