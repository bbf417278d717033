import Mathlib.Data.List.Basic
import ImportWeights.Proofs.Url.Escaping
import ImportWeights.Url.Host

/-! # Names of hosts

A name of letters, digits, dashes and dots is no escape, no address and no bracketed text. So a
special scheme reads it in lower case, and any other scheme as it is written. -/

namespace ImportWeights.Url

open ImportWeights.Text

/-- The characters of host names. -/
def isHostChar (c : Char) : Bool := isAsciiAlpha c || isDigit c || c == '-' || c == '.'

/-- A name of a host that is no address. -/
structure HostName (host : List Char) : Prop where
  begins : ∃ first rest, host = first :: rest ∧ (isAsciiAlpha first || isDigit first) = true
  plain : ∀ c ∈ host, isHostChar c = true
  short : host.length ≤ 253
  named : endsInNumber (host.map lowerAscii) = false
  /-- No label announces an international one. -/
  national : ∀ label ∈ splitAt '.' (host.map lowerAscii), isNational label = false

/-- What makes every scheme read a text as a name, however long it is. -/
structure PlainName (host : List Char) : Prop where
  filled : host ≠ []
  plain : ∀ c ∈ host, isHostChar c = true
  named : endsInNumber (host.map lowerAscii) = false
  national : ∀ label ∈ splitAt '.' (host.map lowerAscii), isNational label = false

/-- Reads a host as a special scheme or any other does. -/
def hostOf (special : Bool) (host : List Char) : Except UrlError (List Char) :=
  if special then specialHost host else plainHost host

/-- A host as it is read under a special scheme and under any other. -/
def readHost (special : Bool) (host : List Char) : List Char :=
  if special then host.map lowerAscii else host

variable {c : Char} {host : List Char}

theorem HostName.ne_nil (h : HostName host) : host ≠ [] := by
  obtain ⟨first, rest, rfl, -⟩ := h.begins
  exact List.cons_ne_nil first rest

theorem HostName.plainName (h : HostName host) : PlainName host :=
  ⟨h.ne_nil, h.plain, h.named, h.national⟩

theorem readHost_ne_nil (filled : host ≠ []) (special : Bool) : readHost special host ≠ [] := by
  cases special with
  | true => exact mt List.map_eq_nil_iff.mp filled
  | false => exact filled

/-- Whatever the scheme, a host is read as it is written, but for the case of its letters. -/
theorem lowered_readHost (special : Bool) (host : List Char) :
    (readHost special host).map lowerAscii = host.map lowerAscii := by
  cases special with
  | true => simp [readHost, Function.comp_def, lowerAscii_lowerAscii]
  | false => rfl

/-! ## The characters -/

theorem small_of_isHostChar (h : isHostChar c = true) : c.toNat < 128 := by
  have bound {d : Char} (hd : d.toNat < 128) (le : c ≤ d) : c.toNat < 128 :=
    Nat.lt_of_le_of_lt le hd
  simp only [isHostChar, isAsciiAlpha, isDigit, Bool.or_eq_true, Bool.and_eq_true,
    decide_eq_true_eq, beq_iff_eq] at h
  obtain (((⟨-, h⟩ | ⟨-, h⟩) | ⟨-, h⟩) | rfl) | rfl := h
  · exact bound (by decide) h
  · exact bound (by decide) h
  · exact bound (by decide) h
  · decide
  · decide

/-- What holds of each character of a host name is checked one by one. -/
theorem of_isHostChar {p : Char → Prop}
    (h : ∀ n < 128, isHostChar (Char.ofNat n) = true → p (Char.ofNat n))
    (plain : isHostChar c = true) : p c :=
  of_ascii (p := fun c => isHostChar c = true → p c) h (small_of_isHostChar plain) plain

theorem isHostChar_of_isDigit (h : isDigit c = true) : isHostChar c = true := by
  simp [isHostChar, h]

theorem isHostChar_of_mem_toDigits {n : Nat} (h : c ∈ Nat.toDigits 10 n) :
    isHostChar c = true :=
  isHostChar_of_isDigit (isDigit_of_mem_toDigits h)

/-! ## Reading -/

theorem bracketed?_of_isHostChar (plain : ∀ c ∈ host, isHostChar c = true) :
    bracketed? host = none := by
  unfold bracketed?
  split
  · exact absurd (plain '[' List.mem_cons_self) (by decide)
  · rfl

theorem unescapeText_eq (plain : ∀ c ∈ host, isHostChar c = true) :
    unescapeText host = Utf8.encode host := by
  refine unescape_of_no_percent fun percent => ?_
  obtain ⟨c, hc, code⟩ := List.mem_flatMap.mp percent
  rw [Utf8.mem_utf8EncodeChar (by decide)] at code
  obtain rfl : c = '%' := Char.toNat_inj.mp code
  exact absurd (plain _ hc) (by decide)

/-- A name is taken in lower case where the scheme is a special one. -/
theorem specialHost_eq (h : PlainName host) : specialHost host = .ok (host.map lowerAscii) := by
  have decoded := Utf8.decode?_encode host
  have allowed : (host.any fun c => decide (0x80 ≤ c.toNat) || isForbiddenInDomain c) = false := by
    rw [List.any_eq_false]
    intro c hc
    exact of_isHostChar (p := fun c => ¬ (decide (0x80 ≤ c.toNat) || isForbiddenInDomain c) = true)
      (by decide) (h.plain c hc)
  have national : ((splitAt '.' (host.map lowerAscii)).any fun label =>
      isNational label && !Punycode.isCoded (label.drop 4)) = false := by
    rw [List.any_eq_false]
    intro label among
    rw [h.national label among, Bool.false_and]
    exact Bool.false_ne_true
  rw [specialHost, bracketed?_of_isHostChar h.plain, unescapeText_eq h.plain, asciiDomain, decoded]
  simp only [allowed, national, Bool.false_eq_true, if_false, h.named,
    mt List.map_eq_nil_iff.mp h.filled]

/-- It is taken as it is under any other scheme. -/
theorem plainHost_eq (plain : ∀ c ∈ host, isHostChar c = true) : plainHost host = .ok host := by
  have allowed : host.any isForbiddenInHost = false := by
    rw [List.any_eq_false]
    intro c hc
    exact of_isHostChar (p := fun c => ¬ isForbiddenInHost c = true) (by decide) (plain c hc)
  have written : escape inNone host = host.flatMap fun c => [c] := by
    refine List.flatMap_congr fun c hc => if_neg ?_
    exact of_isHostChar (p := fun c => ¬ (isControl c || decide (0x80 ≤ c.toNat) || inNone c) = true)
      (by decide) (plain c hc)
  rw [List.flatMap_singleton'] at written
  rw [plainHost, bracketed?_of_isHostChar plain]
  simp only [allowed, Bool.false_eq_true, if_false, written]

theorem hostOf_plainName (h : PlainName host) (special : Bool) :
    hostOf special host = .ok (readHost special host) := by
  cases special with
  | true => exact specialHost_eq h
  | false => exact plainHost_eq h.plain

end ImportWeights.Url
