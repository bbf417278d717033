import ImportWeights.Proofs.Text.Pieces
import ImportWeights.Proofs.Url.HostName

/-! # Names of domains

A host whose labels all begin with a letter is no address, since an address ends in a number. -/

namespace ImportWeights.Url

open ImportWeights.Text

/-- A label of letters, digits and dashes that begins with a letter and announces no international
one. -/
def isDomainLabel (label : List Char) : Bool :=
  label.head?.any isAsciiAlpha && label.all (fun c => isAsciiAlpha c || isDigit c || c == '-') &&
    !isNational (label.map lowerAscii)

/-- A host of such labels, with dots between them. -/
def isDomainName (host : List Char) : Bool := (splitAt '.' host).all isDomainLabel

variable {c : Char} {host label domain : List Char}

/-! ## Labels -/

theorem isDomainLabel_begins (h : isDomainLabel label = true) :
    ∃ first rest, label = first :: rest ∧ isAsciiAlpha first = true := by
  cases label with
  | nil => cases h
  | cons first rest =>
    simp only [isDomainLabel, Bool.and_eq_true] at h
    exact ⟨first, rest, rfl, h.1.1⟩

theorem isHostChar_of_mem_label (h : isDomainLabel label = true) (hc : c ∈ label) :
    isHostChar c = true := by
  simp only [isDomainLabel, Bool.and_eq_true, List.all_eq_true] at h
  rw [isHostChar, h.1.2 c hc, Bool.true_or]

theorem isAsciiAlpha_lowerAscii (h : isAsciiAlpha c = true) :
    isAsciiAlpha (lowerAscii c) = true :=
  of_isHostChar (p := fun c => isAsciiAlpha c = true → isAsciiAlpha (lowerAscii c) = true)
    (by decide) (by simp [isHostChar, h]) h

/-! ## No address -/

/-- What begins with a letter is no number, to whatever base. -/
theorem ipv4Number?_of_letter (h : isAsciiAlpha c = true) (rest : List Char) :
    ipv4Number? (c :: rest) = none := by
  have nonzero : c ≠ '0' := by
    rintro rfl
    cases h
  have noDigit : (isHexDigit c && decide ((hexValue? c.toNat).getD 16 < 10)) = false :=
    of_isHostChar (p := fun c => isAsciiAlpha c = true →
      (isHexDigit c && decide ((hexValue? c.toNat).getD 16 < 10)) = false)
      (by decide) (by simp [isHostChar, h]) h
  unfold ipv4Number?
  simp [nonzero, noDigit]

theorem endsInNumber_eq_false
    (h : ∀ label ∈ splitAt '.' domain, ∃ c rest, label = c :: rest ∧ isAsciiAlpha c = true) :
    endsInNumber domain = false := by
  have noDigit {c : Char} (hc : isAsciiAlpha c = true) : isDigit c = false :=
    of_isHostChar (p := fun c => isAsciiAlpha c = true → isDigit c = false)
      (by decide) (by simp [isHostChar, hc]) hc
  rw [endsInNumber]
  -- the last label decides, and an empty one after it does not occur here
  cases labels : (splitAt '.' domain).reverse with
  | nil => rfl
  | cons last before =>
    have among : last ∈ splitAt '.' domain := List.mem_reverse.mp (labels ▸ List.mem_cons_self)
    obtain ⟨c, rest, rfl, letter⟩ := h last among
    simp [ipv4Number?_of_letter letter, noDigit letter]

/-! ## Reading -/

theorem lowerAscii_eq_dot_iff : lowerAscii c = '.' ↔ c = '.' := by
  obtain fixed | small := lowerAscii_eq_self_or_small c
  · rw [fixed]
  · exact of_ascii (p := fun c => lowerAscii c = '.' ↔ c = '.') (by decide) small

theorem splitAt_lowered (host : List Char) :
    splitAt '.' (host.map lowerAscii) = (splitAt '.' host).map (List.map lowerAscii) :=
  splitAt_map fun _ _ => lowerAscii_eq_dot_iff

/-- The name of a domain is read as a name. -/
theorem plainName_of_isDomainName (h : isDomainName host = true) : PlainName host := by
  have labels : ∀ label ∈ splitAt '.' host, isDomainLabel label = true := List.all_eq_true.mp h
  refine ⟨?filled, ?plain, ?named, ?national⟩
  case filled =>
    rintro rfl
    cases h
  case plain =>
    intro c hc
    obtain rfl | ⟨label, among, inside⟩ := mem_splitAt '.' hc
    · rfl
    · exact isHostChar_of_mem_label (labels label among) inside
  case named =>
    refine endsInNumber_eq_false fun lowered hlowered => ?_
    rw [splitAt_lowered] at hlowered
    obtain ⟨label, among, rfl⟩ := List.mem_map.mp hlowered
    obtain ⟨first, rest, rfl, letter⟩ := isDomainLabel_begins (labels label among)
    exact ⟨lowerAscii first, rest.map lowerAscii, rfl, isAsciiAlpha_lowerAscii letter⟩
  case national =>
    intro lowered hlowered
    rw [splitAt_lowered] at hlowered
    obtain ⟨label, among, rfl⟩ := List.mem_map.mp hlowered
    have told := labels label among
    rw [isDomainLabel, Bool.and_eq_true, Bool.not_eq_true'] at told
    exact told.2

end ImportWeights.Url
