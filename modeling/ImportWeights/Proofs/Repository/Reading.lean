import ImportWeights.Proofs.Repository.Breaking
import ImportWeights.Proofs.Url.Authority
import ImportWeights.Repository.Validation

/-! # How locators are read

A text with one of the schemes is read as a URL; up to its path it may be as long as
`maxPartLength`, and its user, being escaped on reading, is always text. -/

namespace ImportWeights.Repository

open ImportWeights.Text ImportWeights.Url

variable {c : Char} {name rest : List Char} {special : Bool} {scheme : RemoteScheme} {a : Authority}

theorem parse_schemeUrl (scheme : RemoteScheme) (rest : List Char) :
    Locator.parse (String.ofList (schemeUrl scheme rest)) =
      fromUrl scheme.name rest (schemeUrl scheme rest) := by
  have broken : breakAt "://".toList (schemeUrl scheme rest) = some (scheme.name, rest) :=
    breakAt_go_append (by cases scheme <;> decide)
  unfold Locator.parse
  rw [String.toList_ofList]
  dsimp only
  rw [broken]
  cases scheme <;> rfl

/-- Once its URL is read, a locator is refused only for want of a path or of a readable user. -/
theorem fromUrl_of_read {text : List Char} {u : Url} {user : Option String}
    (short : lengthToPath (Utf8.encode rest) ≤ maxPartLength) (read : Url.parse text = .ok u)
    (filled : u.path ≠ []) (rooted : u.isFlat = false) (known : userOf .url u = .ok user) :
    fromUrl scheme.name rest text =
      .ok ⟨String.ofList u.scheme, user, u.host.map String.ofList, String.ofList u.path⟩ := by
  have schemeShort : (Utf8.encode scheme.name).length ≤ maxPartLength := by
    cases scheme <;> decide
  rw [fromUrl]
  simp [Nat.not_lt.mpr short, Nat.not_lt.mpr schemeShort, read, filled, rooted, known]

theorem fromUrl_of_unread {scheme rest text : List Char} {reason : UrlError}
    (unread : Url.parse text = .error reason) :
    ∃ error, fromUrl scheme rest text = .error error := by
  rw [fromUrl, unread]
  dsimp only
  split
  · exact ⟨_, rfl⟩
  · exact ⟨_, rfl⟩

theorem isShorthand_schemeUrl (scheme : RemoteScheme) (rest : List Char) (expected : String) :
    isShorthand (String.ofList (schemeUrl scheme rest)) expected = false := by
  have text : (String.ofList (schemeUrl scheme rest)).toList = schemeUrl scheme rest :=
    String.toList_ofList
  rw [isShorthand, text]
  cases scheme <;> rfl

/-! ## How far it is to the path -/

section Length

variable {front : List UInt8} (filled : front ≠ [])
  (plain : ∀ b ∈ front, isGapByte b = false ∧ b ≠ 47 ∧ b ≠ 92)

include plain

theorem keeps_front : front.filter (fun b => !isGapByte b) = front := by
  rw [List.filter_eq_self]
  intro b hb
  rw [(plain b hb).1]
  rfl

include filled in
theorem begins_front (left : List UInt8) :
    (front ++ left).dropWhile (fun b => b == 47 || b == 92) = front ++ left := by
  obtain ⟨b, rest, rfl⟩ := List.exists_cons_of_ne_nil filled
  have first := plain b List.mem_cons_self
  simp [first]

theorem stays_in_front : ∀ b ∈ front, (b != 47) = true :=
  fun b hb => bne_iff_ne.mpr (plain b hb).2.1

include filled in
theorem lengthToPath_of_path (more : List UInt8) :
    lengthToPath (front ++ 47 :: more) = front.length := by
  have kept : (front ++ 47 :: more).filter (fun b => !isGapByte b) =
      front ++ 47 :: more.filter fun b => !isGapByte b := by
    rw [List.filter_append, List.filter_cons_of_pos rfl, keeps_front plain]
  have before (left : List UInt8) : (front ++ 47 :: left).takeWhile (· != 47) = front := by
    rw [List.takeWhile_append_of_pos (stays_in_front plain)]
    simp
  rw [lengthToPath]
  simp [kept, begins_front filled plain, before]

include filled in
/-- Without a path, what stands before the authority is counted too. -/
theorem lengthToPath_of_no_path : lengthToPath front = front.length + 3 := by
  have begun : front.dropWhile (fun b => b == 47 || b == 92) = front := by
    simpa using begins_front filled plain []
  have before : front.takeWhile (· != 47) = front :=
    List.takeWhile_eq_self_iff.mpr (stays_in_front plain)
  rw [lengthToPath]
  simp only [keeps_front plain, begun, before, Nat.lt_irrefl, if_false]

end Length

/-- An authority has no byte that is passed over, or that begins or ends a path. -/
theorem byte_of_authority (h : a.Plain) :
    ∀ b ∈ Utf8.encode a.text, isGapByte b = false ∧ b ≠ 47 ∧ b ≠ 92 := by
  intro b hb
  obtain ⟨c, hc, code⟩ := List.mem_flatMap.mp hb
  have other {d : UInt8} (small : d.toNat < 128)
      (sign : isAuthorityChar (Char.ofNat d.toNat) = false) : b ≠ d := by
    rintro rfl
    have same := (Utf8.mem_utf8EncodeChar small).mp code
    have plain := h.char hc
    rw [← Char.ofNat_toNat c, same, sign] at plain
    cases plain
  have blank : b ≠ 32 := other (by decide) (by decide)
  have tab : b ≠ 9 := other (by decide) (by decide)
  have lineFeed : b ≠ 10 := other (by decide) (by decide)
  have formFeed : b ≠ 12 := other (by decide) (by decide)
  have carriageReturn : b ≠ 13 := other (by decide) (by decide)
  refine ⟨?_, other (by decide) (by decide), other (by decide) (by decide)⟩
  simp [isGapByte, blank, tab, lineFeed, formFeed, carriageReturn]

theorem encode_text_ne_nil (h : a.Plain) : Utf8.encode a.text ≠ [] :=
  mt Utf8.encode_eq_nil_iff.mp h.text_ne_nil

/-! ## The user -/

theorem plainText_escape {user : List Char} (plain : ∀ c ∈ user, isUserChar c = true)
    (kind : LocatorKind) :
    plainText kind (escape inUserinfo user) = .ok (String.ofList user) := by
  have noEscape : ∀ c ∈ user, c = '%' → inUserinfo c = true :=
    fun c hc percent => absurd percent (ne_of_class (plain c hc) rfl)
  rw [plainText, unescapeText_escape noEscape, Utf8.string?, Utf8.decode?_encode]
  rfl

/-- The user of an authority can be told, whatever else is in the URL. -/
theorem userOf_authority (h : a.Plain) (kind : LocatorKind) (scheme : List Char) (special : Bool)
    (name rest : List Char) : ∃ user, userOf kind (a.url scheme special name rest) = .ok user := by
  cases huser : a.user with
  | none =>
    have nobody : (a.url scheme special name rest).username = [] := by
      simp [Authority.url, Authority.username, Authority.userinfo?, huser]
    refine ⟨none, ?_⟩
    rw [userOf, nobody]
    rfl
  | some user =>
    have plain := (h.user user huser).2
    have kept : (a.url scheme special name rest).username = escape inUserinfo user := by
      simp [Authority.url, Authority.username, Authority.userinfo?, huser]
    have open_ : (a.url scheme special name rest).password = none := rfl
    rw [userOf, kept, open_, plainText_escape plain]
    split
    · exact ⟨_, rfl⟩
    · exact ⟨_, rfl⟩

end ImportWeights.Repository
